import Mathlib.Data.Fin.Basic
import Mathlib.Data.Vector.Basic
import Mathlib.Data.String.Basic

/-!
# UUIDs

A UUID is its 32 hexadecimal digits. `Uuid.str` is Python's `str(uuid)`, lower-case
with hyphens at 8-4-4-4-12, and `Uuid.ofText` the constructor `UUID(text)`, which
takes the digits with hyphens, braces and a URN prefix optional. Reading a printed
UUID gives it back (`Uuid.ofText_str`).
-/

namespace DqScoring

/-- A UUID, as its hexadecimal digits. -/
structure Uuid where
  digits : List.Vector (Fin 16) 32
  deriving DecidableEq

/-- The number that a UUID is, in the order of a database. -/
def Uuid.value (u : Uuid) : ℕ := u.digits.toList.foldl (fun n d => 16 * n + d.val) 0

/-- Digits of one length are determined by the number that they extend another by. -/
theorem digits_inj {ds ds' : List (Fin 16)} (h_length : ds.length = ds'.length) {n n' : ℕ}
    (h : ds.foldl (fun n d => 16 * n + d.val) n = ds'.foldl (fun n d => 16 * n + d.val) n') :
    n = n' ∧ ds = ds' := by
  induction ds generalizing ds' n n' with
  | nil =>
    cases ds' with
    | nil => exact ⟨h, rfl⟩
    | cons d' ds' => cases h_length
  | cons d ds ih =>
    cases ds' with
    | nil => cases h_length
    | cons d' ds' =>
      obtain ⟨h_eq, rfl⟩ := ih (Nat.succ.inj h_length) h
      have h_step : 16 * n + d.val = 16 * n' + d'.val := h_eq
      have h_d := d.isLt
      have h_d' := d'.isLt
      have h_val : d.val = d'.val := by omega
      refine ⟨by omega, ?_⟩
      rw [Fin.ext h_val]

/-- A UUID is its value. -/
theorem Uuid.value_injective : Function.Injective Uuid.value := by
  rintro ⟨ds, h_ds⟩ ⟨ds', h_ds'⟩ h
  obtain ⟨-, rfl⟩ := digits_inj (h_ds.trans h_ds'.symm) h
  rfl

/-- The lower-case character of a hexadecimal digit. -/
def hexChar (d : Fin 16) : Char :=
  if d.val < 10 then Char.ofNat (d.val + 48) else Char.ofNat (d.val + 87)

/-- The value of a hexadecimal character, in either case. -/
def hexValue (c : Char) : Option (Fin 16) :=
  (List.finRange 16).find? fun d => hexChar d = c || (hexChar d).toUpper = c

/-- The UUID all of whose digits are `d`. -/
def Uuid.repeated (d : ℕ) : Uuid := ⟨List.Vector.replicate 32 (Fin.ofNat 16 d)⟩

/-- The 36 characters of a printed UUID. -/
def Uuid.chars (u : Uuid) : List Char :=
  let cs := u.digits.toList.map hexChar
  cs.take 8 ++ '-' :: ((cs.drop 8).take 4 ++ '-' :: ((cs.drop 12).take 4 ++
    '-' :: ((cs.drop 16).take 4 ++ '-' :: cs.drop 20)))

/-- Python's `str(uuid)`. -/
def Uuid.str (u : Uuid) : String := String.ofList u.chars

/-- Python's `text.replace(pattern, "")` for a pattern that is not empty. -/
def removeAll (pattern : List Char) : List Char → List Char
  | [] => []
  | c :: cs =>
    -- occurrences do not overlap
    if pattern ≠ [] ∧ pattern.isPrefixOf (c :: cs) then
      removeAll pattern ((c :: cs).drop (max 1 pattern.length))
    else c :: removeAll pattern cs
  termination_by cs => cs.length
  decreasing_by all_goals simp; try omega

/-- Python's `text.strip("{}")`. -/
def stripBraces (cs : List Char) : List Char :=
  ((cs.dropWhile fun c => c = '{' || c = '}').reverse.dropWhile
    fun c => c = '{' || c = '}').reverse

/-- Python's `UUID(text)`: absent where it raises. -/
def Uuid.ofText (text : String) : Option Uuid :=
  let cs := removeAll "uuid:".toList (removeAll "urn:".toList text.toList)
  let hex := (stripBraces cs).filter (· ≠ '-')
  match hex.mapM hexValue with
  | some digits => if h : digits.length = 32 then some ⟨⟨digits, h⟩⟩ else none
  | none => none

/-! ### Round trip -/

/-- A hexadecimal character is read back. -/
theorem hexValue_hexChar (d : Fin 16) : hexValue (hexChar d) = some d := by
  revert d
  decide

/-- No character of a printed UUID starts a URN prefix or is a brace. -/
theorem hexChar_plain (d : Fin 16) :
    hexChar d ≠ 'u' ∧ hexChar d ≠ '{' ∧ hexChar d ≠ '}' ∧ hexChar d ≠ '-' := by
  revert d
  decide

/-- A pattern whose first character does not occur is not removed. -/
theorem removeAll_of_not_mem {c : Char} {pattern cs : List Char} (h : c ∉ cs) :
    removeAll (c :: pattern) cs = cs := by
  induction cs with
  | nil => rw [removeAll]
  | cons d cs ih =>
    have h_ne : c ≠ d := fun h_eq => h (h_eq ▸ List.mem_cons_self)
    have h_tail : c ∉ cs := fun h_mem => h (List.mem_cons_of_mem d h_mem)
    have h_begins : ¬ ((c :: pattern ≠ []) ∧ (c :: pattern).isPrefixOf (d :: cs) = true) := by
      simp [List.isPrefixOf, h_ne]
    rw [removeAll, if_neg h_begins, ih h_tail]

/-- Without braces nothing is stripped. -/
theorem stripBraces_of_not_mem {cs : List Char} (h : '{' ∉ cs) (h' : '}' ∉ cs) :
    stripBraces cs = cs := by
  -- nothing is dropped from the front, and so, reversed, nothing from the end
  have h_drop : ∀ l : List Char, (∀ c ∈ l, c ∈ cs) →
      l.dropWhile (fun c => c = '{' || c = '}') = l := by
    intro l hl
    cases l with
    | nil => rfl
    | cons c l =>
      have hc : c ∈ cs := hl c List.mem_cons_self
      have h_open : c ≠ '{' := fun h_eq => h (h_eq ▸ hc)
      have h_close : c ≠ '}' := fun h_eq => h' (h_eq ▸ hc)
      rw [List.dropWhile_cons_of_neg (by simp [h_open, h_close])]
  unfold stripBraces
  rw [h_drop cs fun c hc => hc, h_drop cs.reverse fun c hc => List.mem_reverse.mp hc,
    List.reverse_reverse]

/-- A written UUID has hexadecimal characters and dashes. -/
theorem mem_chars {u : Uuid} {c : Char} (h : c ∈ u.chars) :
    c = '-' ∨ ∃ d, c = hexChar d := by
  have h_digit : ∀ {l : List Char}, (∀ x ∈ l, x ∈ u.digits.toList.map hexChar) → c ∈ l →
      ∃ d, c = hexChar d := by
    intro l hl hc
    obtain ⟨d, -, rfl⟩ := List.mem_map.mp (hl c hc)
    exact ⟨d, rfl⟩
  simp only [Uuid.chars, List.mem_append, List.mem_cons] at h
  rcases h with h | rfl | h | rfl | h | rfl | h | rfl | h
  · exact Or.inr (h_digit (fun x hx => List.mem_of_mem_take hx) h)
  · exact Or.inl rfl
  · exact Or.inr (h_digit (fun x hx => List.mem_of_mem_drop (List.mem_of_mem_take hx)) h)
  · exact Or.inl rfl
  · exact Or.inr (h_digit (fun x hx => List.mem_of_mem_drop (List.mem_of_mem_take hx)) h)
  · exact Or.inl rfl
  · exact Or.inr (h_digit (fun x hx => List.mem_of_mem_drop (List.mem_of_mem_take hx)) h)
  · exact Or.inl rfl
  · exact Or.inr (h_digit (fun x hx => List.mem_of_mem_drop hx) h)

/-- Without its hyphens a printed UUID is its digits. -/
theorem filter_chars (u : Uuid) :
    u.chars.filter (· ≠ '-') = u.digits.toList.map hexChar := by
  have h_keep : ∀ {l : List Char}, (∀ x ∈ l, x ∈ u.digits.toList.map hexChar) →
      l.filter (· ≠ '-') = l := by
    intro l hl
    refine List.filter_eq_self.mpr fun c hc => ?_
    obtain ⟨d, -, rfl⟩ := List.mem_map.mp (hl c hc)
    exact decide_eq_true (hexChar_plain d).2.2.2
  have h_hyphen : ∀ l : List Char, ('-' :: l).filter (· ≠ '-') = l.filter (· ≠ '-') :=
    fun l => List.filter_cons_of_neg (by decide)
  simp only [Uuid.chars, List.filter_append, h_hyphen]
  rw [h_keep fun x hx => List.mem_of_mem_take hx,
    h_keep fun x hx => List.mem_of_mem_drop (List.mem_of_mem_take hx),
    h_keep fun x hx => List.mem_of_mem_drop (List.mem_of_mem_take hx),
    h_keep fun x hx => List.mem_of_mem_drop (List.mem_of_mem_take hx),
    h_keep fun x hx => List.mem_of_mem_drop hx]
  -- the five groups are consecutive
  have h_split : ∀ (l : List Char) (m n : ℕ), (l.drop m).take n ++ l.drop (m + n) = l.drop m :=
    fun l m n => by rw [← List.drop_drop, List.take_append_drop]
  rw [h_split _ 16 4, h_split _ 12 4, h_split _ 8 4, List.take_append_drop]

/-- **Round trip.** Reading a printed UUID gives it back. -/
theorem Uuid.ofText_str (u : Uuid) : Uuid.ofText u.str = some u := by
  -- what `UUID` removes besides the hyphens is not in the text
  have h_absent : ∀ c, c ≠ '-' → (∀ d, c ≠ hexChar d) → c ∉ u.chars := by
    intro c h_hyphen h_digit h_mem
    rcases mem_chars h_mem with h | ⟨d, h⟩
    · exact h_hyphen h
    · exact h_digit d h
  have h_text : removeAll "uuid:".toList (removeAll "urn:".toList u.str.toList) = u.chars := by
    have h_u : 'u' ∉ u.chars := h_absent 'u' (by decide) fun d => (hexChar_plain d).1.symm
    have h_list : u.str.toList = u.chars := String.toList_ofList
    have h_urn : removeAll "urn:".toList u.chars = u.chars := removeAll_of_not_mem h_u
    have h_uuid : removeAll "uuid:".toList u.chars = u.chars := removeAll_of_not_mem h_u
    rw [h_list, h_urn, h_uuid]
  have h_strip : stripBraces u.chars = u.chars :=
    stripBraces_of_not_mem (h_absent '{' (by decide) fun d => (hexChar_plain d).2.1.symm)
      (h_absent '}' (by decide) fun d => (hexChar_plain d).2.2.1.symm)
  have h_digits : (u.digits.toList.map hexChar).mapM hexValue = some u.digits.toList := by
    rw [List.mapM_map, show hexValue ∘ hexChar = some from funext hexValue_hexChar]
    exact List.mapM_pure.trans (congrArg some (List.map_id _))
  unfold Uuid.ofText
  simp only [h_text, h_strip, filter_chars, h_digits]
  rw [dif_pos u.digits.toList_length]
  rfl

/-- Different UUIDs are written differently. -/
theorem Uuid.str_injective : Function.Injective Uuid.str := by
  intro u u' h
  have h_read := Uuid.ofText_str u
  rw [h, Uuid.ofText_str] at h_read
  exact (Option.some.inj h_read).symm

end DqScoring
