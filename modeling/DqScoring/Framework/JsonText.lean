import Mathlib.Data.Int.Notation
import Mathlib.Data.List.Perm.Basic

/-!
# JSON texts

The grammar of JSON, apart from what a decoder makes of it. A tree (`JsonTree`) has the
literals of a document as they are spelled: a number with all its digits, a string with its
escapes. A text spells a tree (`Spells`) in many ways, which differ in the blanks between
the tokens only. `Reorders` relates the trees that differ in the order of the entries of
their objects.

The names of the constants that are no JSON, such as `NaN`, belong to the grammar too,
since decoders know them.
-/

namespace Framework

/-! ### Characters -/

/-- The blanks that may stand between two tokens. -/
def isBlank (c : Char) : Bool := c == ' ' || c == '\t' || c == '\n' || c == '\r'

/-- The characters that stand for themselves within a string. -/
def isPlain (c : Char) : Bool := decide (32 ≤ c.toNat) && c != '"' && c != '\\'

/-- The value of a hexadecimal digit. -/
def hexValue? (c : Char) : Option ℕ :=
  if '0' ≤ c ∧ c ≤ '9' then some (c.toNat - '0'.toNat)
  else if 'a' ≤ c ∧ c ≤ 'f' then some (c.toNat - 'a'.toNat + 10)
  else if 'A' ≤ c ∧ c ≤ 'F' then some (c.toNat - 'A'.toNat + 10)
  else none

/-- A decimal digit. -/
abbrev Digit := { c : Char // c.isDigit = true }

/-- A hexadecimal digit. -/
abbrev HexDigit := { c : Char // (hexValue? c).isSome = true }

/-- The value of a hexadecimal digit. -/
def HexDigit.value (c : HexDigit) : ℕ := (hexValue? c.val).get c.property

/-! ### Numbers -/

/-- One digit or more. -/
structure Digits where
  first : Digit
  more : List Digit

/-- The digits as a list. -/
def Digits.toList (ds : Digits) : List Digit := ds.first :: ds.more

/-- The text of some digits. -/
def digitChars (ds : List Digit) : List Char := ds.map (·.val)

/-- The number that some digits spell. -/
def digitsValue (ds : List Digit) : ℕ := Nat.ofDigitChars 10 (digitChars ds) 0

/-- The digits before the point: a single zero, or digits that do not start with one. -/
inductive IntegralPart where
  | zero
  | nonzero (digits : Digits) (h : digits.first.val ≠ '0')

/-- The digits of an integral part. -/
def IntegralPart.digits : IntegralPart → List Digit
  | zero => [⟨'0', rfl⟩]
  | nonzero ds _ => ds.toList

/-- The sign of an exponent. -/
inductive ExponentSign where
  | plus | minus
  deriving DecidableEq

/-- An exponent: the letter, the sign where one is written, and the digits. -/
structure ExponentPart where
  upper : Bool
  sign : Option ExponentSign
  digits : Digits

/-- A number as it is spelled. -/
structure NumberLiteral where
  negative : Bool
  integral : IntegralPart
  fraction : Option Digits
  exponent : Option ExponentPart

/-- The text of the sign of an exponent. -/
def signText : Option ExponentSign → List Char
  | none => []
  | some .plus => ['+']
  | some .minus => ['-']

/-- The text of a fraction. -/
def fractionText : Option Digits → List Char
  | none => []
  | some ds => '.' :: digitChars ds.toList

/-- The text of an exponent. -/
def exponentText : Option ExponentPart → List Char
  | none => []
  | some e => (if e.upper then 'E' else 'e') :: (signText e.sign ++ digitChars e.digits.toList)

namespace NumberLiteral

/-- The text of a number. -/
def text (n : NumberLiteral) : List Char :=
  (if n.negative then ['-'] else []) ++
    (digitChars n.integral.digits ++ (fractionText n.fraction ++ exponentText n.exponent))

/-- The number has neither a fraction nor an exponent. -/
def isInteger (n : NumberLiteral) : Bool := n.fraction.isNone && n.exponent.isNone

/-- The digits of the fraction. -/
def fractionDigits (n : NumberLiteral) : List Digit := (n.fraction.map Digits.toList).getD []

/-- The value of the exponent that is written. -/
def writtenExponent (n : NumberLiteral) : ℤ :=
  match n.exponent with
  | none => 0
  | some ⟨_, some .minus, ds⟩ => -(digitsValue ds.toList : ℤ)
  | some ⟨_, _, ds⟩ => digitsValue ds.toList

/-- The digits before and after the point, as one number. -/
def coefficient (n : NumberLiteral) : ℕ := digitsValue (n.integral.digits ++ n.fractionDigits)

/-- The power of ten by which the coefficient counts. -/
def scale (n : NumberLiteral) : ℤ := n.writtenExponent - n.fractionDigits.length

end NumberLiteral

/-! ### Strings -/

/-- The escapes of one letter. -/
inductive Escape where
  | quote | backslash | slash | backspace | formFeed | newline | carriageReturn | tab
  deriving DecidableEq

namespace Escape

/-- The letter after the backslash. -/
def letter : Escape → Char
  | quote => '"'
  | backslash => '\\'
  | slash => '/'
  | backspace => 'b'
  | formFeed => 'f'
  | newline => 'n'
  | carriageReturn => 'r'
  | tab => 't'

/-- The code point that the escape stands for. -/
def codePoint : Escape → ℕ
  | quote => 34
  | backslash => 92
  | slash => 47
  | backspace => 8
  | formFeed => 12
  | newline => 10
  | carriageReturn => 13
  | tab => 9

/-- The escape of a letter. -/
def ofLetter? (c : Char) : Option Escape :=
  [quote, backslash, slash, backspace, formFeed, newline, carriageReturn, tab].find?
    fun e => e.letter == c

end Escape

/-- A part of a string: a character that stands for itself, or an escape. -/
inductive StringPart where
  | plain (c : Char) (h : isPlain c = true)
  | escape (e : Escape)
  | unicode (a b c d : HexDigit)

namespace StringPart

/-- The text of a part. -/
def text : StringPart → List Char
  | plain c _ => [c]
  | escape e => ['\\', e.letter]
  | unicode a b c d => ['\\', 'u', a.val, b.val, c.val, d.val]

/-- The code point of a part, or its half of a surrogate pair. -/
def codePoint : StringPart → ℕ
  | plain c _ => c.toNat
  | escape e => e.codePoint
  | unicode a b c d => ((a.value * 16 + b.value) * 16 + c.value) * 16 + d.value

end StringPart

/-- The first half of a surrogate pair. -/
def isHighSurrogate (n : ℕ) : Bool := decide (0xd800 ≤ n ∧ n ≤ 0xdbff)

/-- The second half of a surrogate pair. -/
def isLowSurrogate (n : ℕ) : Bool := decide (0xdc00 ≤ n ∧ n ≤ 0xdfff)

/-- The code point of a surrogate pair. -/
def joinSurrogates (high low : ℕ) : ℕ := 0x10000 + (high - 0xd800) * 0x400 + (low - 0xdc00)

/-- The code points of a string. Two escapes that make a surrogate pair are one code point, and half
of a pair that stands alone is kept. -/
def codePoints : List StringPart → List ℕ
  | [] => []
  | p :: parts =>
    match codePoints parts with
    | low :: rest =>
      -- a high and a low surrogate in a row are one code point
      if isHighSurrogate p.codePoint && isLowSurrogate low then
        joinSurrogates p.codePoint low :: rest
      else p.codePoint :: low :: rest
    | [] => [p.codePoint]

/-- The text of a string. -/
def stringText (parts : List StringPart) : List Char :=
  '"' :: (parts.flatMap StringPart.text ++ ['"'])

/-! ### Trees -/

/-- The constants beyond JSON. -/
inductive JsonConstant where
  | nan | infinity | minusInfinity
  deriving DecidableEq

/-- A document, with its literals as they are spelled. -/
inductive JsonTree where
  | null
  | bool (b : Bool)
  | constant (c : JsonConstant)
  | number (n : NumberLiteral)
  | string (parts : List StringPart)
  | array (items : List JsonTree)
  | object (entries : List (List StringPart × JsonTree))

/-- Induction over a document: a container is known by what it contains. -/
theorem JsonTree.inductionOn {P : JsonTree → Prop} (t : JsonTree) (null : P .null)
    (bool : ∀ b, P (.bool b)) (constant : ∀ c, P (.constant c)) (number : ∀ n, P (.number n))
    (string : ∀ parts, P (.string parts))
    (array : ∀ items, (∀ t ∈ items, P t) → P (.array items))
    (object : ∀ entries : List (List StringPart × JsonTree), (∀ e ∈ entries, P e.2) →
      P (.object entries)) : P t :=
  @JsonTree.rec P (fun items => ∀ t ∈ items, P t) (fun entries => ∀ e ∈ entries, P e.2)
    (fun e => P e.2) null bool constant number string array object
    (List.forall_mem_nil _) (fun _ _ h_t h_items => List.forall_mem_cons.mpr ⟨h_t, h_items⟩)
    (List.forall_mem_nil _) (fun _ _ h_e h_entries => List.forall_mem_cons.mpr ⟨h_e, h_entries⟩)
    (fun _ _ h_t => h_t) t

/-- Two documents that differ in the order of the entries of their objects. -/
inductive Reorders : JsonTree → JsonTree → Prop
  | refl (t) : Reorders t t
  | trans {t₁ t₂ t₃} : Reorders t₁ t₂ → Reorders t₂ t₃ → Reorders t₁ t₃
  /-- In an item of an array. -/
  | item (before after) {t t'} : Reorders t t' →
      Reorders (.array (before ++ t :: after)) (.array (before ++ t' :: after))
  /-- In the value of an entry. -/
  | entry (before after key) {t t'} : Reorders t t' →
      Reorders (.object (before ++ (key, t) :: after)) (.object (before ++ (key, t') :: after))
  /-- Of the object itself. -/
  | entries {es es'} : es.Perm es' → Reorders (.object es) (.object es')

/-! ### Texts -/

/-- The text of a literal that is one word. -/
def wordText : JsonTree → List Char
  | .null => ['n', 'u', 'l', 'l']
  | .bool true => ['t', 'r', 'u', 'e']
  | .bool false => ['f', 'a', 'l', 's', 'e']
  | .constant .nan => ['N', 'a', 'N']
  | .constant .infinity => ['I', 'n', 'f', 'i', 'n', 'i', 't', 'y']
  | .constant .minusInfinity => ['-', 'I', 'n', 'f', 'i', 'n', 'i', 't', 'y']
  | _ => []

/-- The literals that are one word. -/
def words : List JsonTree :=
  [.null, .bool true, .bool false, .constant .nan, .constant .infinity, .constant .minusInfinity]

/-- Nothing but blanks. -/
def Blank (cs : List Char) : Prop := ∀ c ∈ cs, isBlank c = true

mutual

/-- The text spells the tree. -/
inductive Spells : List Char → JsonTree → Prop
  | word {t} : t ∈ words → Spells (wordText t) t
  | number (n) : Spells n.text (.number n)
  | string (parts) : Spells (stringText parts) (.string parts)
  | emptyArray {blank} : Blank blank → Spells ('[' :: (blank ++ [']'])) (.array [])
  | array {body items} : SpellsItems body items → Spells ('[' :: (body ++ [']'])) (.array items)
  -- the braces are written as escapes
  | emptyObject {blank} : Blank blank → Spells ('\x7b' :: (blank ++ ['\x7d'])) (.object [])
  | object {body entries} : SpellsEntries body entries →
      Spells ('\x7b' :: (body ++ ['\x7d'])) (.object entries)

/-- The text spells the tree, with blanks around it. -/
inductive SpellsPadded : List Char → JsonTree → Prop
  | mk {before text after t} : Blank before → Spells text t → Blank after →
      SpellsPadded (before ++ (text ++ after)) t

/-- The text between the brackets spells the items. -/
inductive SpellsItems : List Char → List JsonTree → Prop
  | last {text t} : SpellsPadded text t → SpellsItems text [t]
  | more {text body t items} : SpellsPadded text t → SpellsItems body items →
      SpellsItems (text ++ ',' :: body) (t :: items)

/-- The text between the braces spells the entries. -/
inductive SpellsEntries : List Char → List (List StringPart × JsonTree) → Prop
  | last {before key afterKey text t} : Blank before → Blank afterKey → SpellsPadded text t →
      SpellsEntries (before ++ (stringText key ++ (afterKey ++ ':' :: text))) [(key, t)]
  | more {before key afterKey text body t entries} : Blank before → Blank afterKey →
      SpellsPadded text t → SpellsEntries body entries →
      SpellsEntries (before ++ (stringText key ++ (afterKey ++ ':' :: (text ++ ',' :: body))))
        ((key, t) :: entries)

end

theorem blank_nil : Blank [] := fun _ h => nomatch h

/-- The shortest text has no blanks. -/
theorem Spells.padded {text : List Char} {t : JsonTree} (h : Spells text t) :
    SpellsPadded text t := by
  have h_padded := SpellsPadded.mk blank_nil h blank_nil
  rw [List.append_nil] at h_padded
  exact h_padded

end Framework
