import Mathlib.Data.List.Infix

/-!
# Regular expressions

Patterns of character classes with counted repetition, sequence, option and the assertion
`\b`, read as a backtracking matcher reads them. `Regex.Matches` is the meaning of a pattern
on a text between the characters beside it; `Regex.ends` lists the lengths of the matches at
a place in the order in which they are tried, and the first of them is the match
(`Regex.mem_ends`). `Regex.split` scans a text from left to right, and `Regex.sub` puts a
replacement for what it cuts out.

A replacement in brackets keeps texts apart: a pattern that uses no bracket has a match in
the result exactly if it has one in a piece that the scan leaves (`Regex.contains_sub_iff`).
Such a match is one of the whole text if the scan cuts at boundaries
(`Regex.Contains.of_split`), and else it stands beside a cut (`Regex.exists_split_iff`). The
pattern of the scan itself has no match left (`Regex.not_contains_split`).
-/

namespace Framework

/-- A pattern. -/
inductive Regex where
  | empty
  /-- `\b` -/
  | boundary
  /-- At least `least` and at most `most` characters of a class, as many as possible. -/
  | chars (p : Char → Bool) (least : ℕ) (most : Option ℕ)
  | seq (r s : Regex)
  /-- `(?:r)?`, where `r` is tried first. -/
  | optional (r : Regex)

namespace Regex

instance : Append Regex := ⟨seq⟩

/-- One character of a class. -/
def one (p : Char → Bool) : Regex := chars p 1 (some 1)

/-- A character of a class, or nothing. -/
def maybe (p : Char → Bool) : Regex := chars p 0 (some 1)

/-- `r{n}`. -/
def times (r : Regex) : ℕ → Regex
  | 0 => empty
  | n + 1 => r ++ times r n

section

variable (isWord : Char → Bool)

/-- `\b` between two characters, or at an end of the text; `isWord` are the characters of
`\w`. -/
def isBoundary (before after : Option Char) : Bool := before.any isWord != after.any isWord

/-! ### The meaning of a pattern -/

/-- The pattern matches a text that stands between these characters. -/
def Matches : Regex → Option Char → List Char → Option Char → Prop
  | empty, _, m, _ => m = []
  | boundary, before, m, after => m = [] ∧ isBoundary isWord before after = true
  | chars p least most, _, m, _ =>
    (∀ c ∈ m, p c = true) ∧ least ≤ m.length ∧ ∀ n ∈ most, m.length ≤ n
  | seq r s, before, m, after =>
    -- what a boundary sees is the text on both sides
    ∃ m₁ m₂, m = m₁ ++ m₂ ∧ Matches r before m₁ (m₂.head?.or after) ∧
      Matches s (m₁.getLast?.or before) m₂ after
  | optional r, before, m, after => m = [] ∨ Matches r before m after

/-- A match of the pattern stands somewhere in the text. -/
def Contains (r : Regex) (text : List Char) : Prop :=
  ∃ a m b, text = a ++ (m ++ b) ∧ r.Matches isWord a.getLast? m b.head?

/-- A match of the pattern stands at the beginning of the text. -/
def Begins (r : Regex) (text : List Char) : Prop :=
  ∃ m b, text = m ++ b ∧ r.Matches isWord none m b.head?

/-- A match of the pattern stands at the end of the text. -/
def Ends (r : Regex) (text : List Char) : Prop :=
  ∃ a m, text = a ++ m ∧ r.Matches isWord a.getLast? m none

end

variable {isWord : Char → Bool} {q r : Regex} {before before' after after' : Option Char}
  {m text : List Char} {gaps : List (List Char)}

/-- A match at the start is a match somewhere. -/
theorem Begins.contains (h : r.Begins isWord text) : r.Contains isWord text := by
  obtain ⟨m, b, h_text, h_m⟩ := h
  exact ⟨[], m, b, h_text, h_m⟩

/-- A match at the end is a match somewhere. -/
theorem Ends.contains (h : r.Ends isWord text) : r.Contains isWord text := by
  obtain ⟨a, m, h_text, h_m⟩ := h
  exact ⟨a, m, [], by rw [List.append_nil]; exact h_text, h_m⟩

/-- A match stays one beside other characters, if its ends lie at a boundary wherever they
did. -/
theorem Matches.mono (h : r.Matches isWord before m after)
    (h_left : isBoundary isWord before (m.head?.or after) = true →
      isBoundary isWord before' (m.head?.or after') = true)
    (h_right : isBoundary isWord (m.getLast?.or before) after = true →
      isBoundary isWord (m.getLast?.or before') after' = true) :
    r.Matches isWord before' m after' := by
  induction r generalizing before before' after after' m with
  | empty => exact h
  | boundary =>
    obtain ⟨rfl, h_at⟩ := h
    exact ⟨rfl, h_left h_at⟩
  | chars p least most => exact h
  | seq r s ih_r ih_s =>
    obtain ⟨m₁, m₂, rfl, h_r, h_s⟩ := h
    simp only [List.head?_append, List.getLast?_append, Option.or_assoc] at h_left h_right
    -- where the two parts meet, the characters beside the place are those of the match
    have h_middle : isBoundary isWord (m₁.getLast?.or before) (m₂.head?.or after) = true →
        isBoundary isWord (m₁.getLast?.or before') (m₂.head?.or after') = true := by
      intro h_at
      cases h_last : m₁.getLast? with
      | none =>
        rw [List.getLast?_eq_none_iff] at h_last
        subst h_last
        exact h_left h_at
      | some c =>
        cases m₂ with
        | nil => simpa [h_last] using h_right h_at
        | cons d m₂ => simpa [h_last] using h_at
    exact ⟨m₁, m₂, rfl, ih_r h_r h_left h_middle, ih_s h_s h_middle h_right⟩
  | optional r ih => exact h.imp id fun h_m => ih h_m h_left h_right

/-! ### The characters of a match -/

/-- A class of the pattern has the character. -/
def uses : Regex → Char → Bool
  | empty, _ => false
  | boundary, _ => false
  | chars p _ _, c => p c
  | seq r s, c => uses r c || uses s c
  | optional r, c => uses r c

/-- The pattern asks for a character with the property. -/
def Needs (P : Char → Prop) : Regex → Prop
  | empty => False
  | boundary => False
  | chars p least _ => 0 < least ∧ ∀ c, p c = true → P c
  | seq r s => Needs P r ∨ Needs P s
  | optional _ => False

@[simp] theorem uses_boundary (c : Char) : boundary.uses c = false := rfl

@[simp] theorem uses_chars (p : Char → Bool) (least : ℕ) (most : Option ℕ) (c : Char) :
    (chars p least most).uses c = p c := rfl

@[simp] theorem uses_one (p : Char → Bool) (c : Char) : (one p).uses c = p c := rfl

@[simp] theorem uses_maybe (p : Char → Bool) (c : Char) : (maybe p).uses c = p c := rfl

/-- A sequence uses the characters of both parts. -/
@[simp] theorem uses_append (r s : Regex) (c : Char) :
    (r ++ s).uses c = (r.uses c || s.uses c) := rfl

@[simp] theorem uses_optional (r : Regex) (c : Char) : (optional r).uses c = r.uses c := rfl

/-- A repetition uses the characters of its body, if it repeats at all. -/
@[simp] theorem uses_times (r : Regex) (n : ℕ) (c : Char) :
    (times r n).uses c = (decide (0 < n) && r.uses c) := by
  induction n with
  | zero => rfl
  | succ n ih =>
    rw [times, uses_append, ih]
    cases r.uses c <;> simp

/-- Every character of a match is one that the expression uses. -/
theorem Matches.uses (h : r.Matches isWord before m after) {c : Char} (h_c : c ∈ m) :
    r.uses c = true := by
  induction r generalizing before after m with
  | empty =>
    obtain rfl : m = [] := h
    cases h_c
  | boundary =>
    obtain rfl : m = [] := h.1
    cases h_c
  | chars p least most => exact h.1 c h_c
  | seq r s ih_r ih_s =>
    obtain ⟨m₁, m₂, rfl, h_r, h_s⟩ := h
    rw [Regex.uses, Bool.or_eq_true]
    rcases List.mem_append.mp h_c with h_c | h_c
    · exact Or.inl (ih_r h_r h_c)
    · exact Or.inr (ih_s h_s h_c)
  | optional r ih =>
    rcases h with rfl | h
    · cases h_c
    · exact ih h h_c

/-- If the expression needs a character of a kind, each of its matches has one. -/
theorem Matches.exists_of_needs {P : Char → Prop} (h : r.Matches isWord before m after)
    (h_needs : r.Needs P) : ∃ c ∈ m, P c := by
  induction r generalizing before after m with
  | empty => exact h_needs.elim
  | boundary => exact h_needs.elim
  | chars p least most =>
    obtain ⟨h_all, h_least, -⟩ := h
    have h_pos : 0 < m.length := lt_of_lt_of_le h_needs.1 h_least
    have h_mem : m[0] ∈ m := List.getElem_mem h_pos
    exact ⟨m[0], h_mem, h_needs.2 _ (h_all _ h_mem)⟩
  | seq r s ih_r ih_s =>
    obtain ⟨m₁, m₂, rfl, h_r, h_s⟩ := h
    rcases h_needs with h_needs | h_needs
    · obtain ⟨c, h_c, h_P⟩ := ih_r h_r h_needs
      exact ⟨c, List.mem_append_left _ h_c, h_P⟩
    · obtain ⟨c, h_c, h_P⟩ := ih_s h_s h_needs
      exact ⟨c, List.mem_append_right _ h_c, h_P⟩
  | optional r ih => exact h_needs.elim

/-! ### Where a pattern asserts a boundary -/

/-- The pattern begins with `\b`. -/
def leads : Regex → Bool
  | boundary => true
  | seq r _ => leads r
  | _ => false

/-- The pattern ends with `\b`. -/
def trails : Regex → Bool
  | boundary => true
  | seq _ s => trails s
  | _ => false

/-- The pattern has no `\b`. -/
def isFree : Regex → Bool
  | boundary => false
  | seq r s => isFree r && isFree s
  | optional r => isFree r
  | _ => true

/-- An expression that starts with a boundary matches at one. -/
theorem Matches.boundary_left (h : r.Matches isWord before m after) (h_leads : r.leads = true) :
    isBoundary isWord before (m.head?.or after) = true := by
  induction r generalizing before after m with
  | boundary =>
    obtain ⟨rfl, h_at⟩ := h
    exact h_at
  | seq r s ih_r ih_s =>
    obtain ⟨m₁, m₂, rfl, h_r, h_s⟩ := h
    have h_left := ih_r h_r h_leads
    rw [List.head?_append, Option.or_assoc]
    exact h_left
  | empty => cases h_leads
  | chars p least most => cases h_leads
  | optional r ih => cases h_leads

/-- An expression that ends with a boundary matches up to one. -/
theorem Matches.boundary_right (h : r.Matches isWord before m after)
    (h_trails : r.trails = true) : isBoundary isWord (m.getLast?.or before) after = true := by
  induction r generalizing before after m with
  | boundary =>
    obtain ⟨rfl, h_at⟩ := h
    exact h_at
  | seq r s ih_r ih_s =>
    obtain ⟨m₁, m₂, rfl, h_r, h_s⟩ := h
    have h_right := ih_s h_s h_trails
    rw [List.getLast?_append, Option.or_assoc]
    exact h_right
  | empty => cases h_trails
  | chars p least most => cases h_trails
  | optional r ih => cases h_trails

/-- An expression without boundaries matches the same text in any surroundings. -/
theorem Matches.of_isFree (h : r.Matches isWord before m after) (h_free : r.isFree = true) :
    r.Matches isWord before' m after' := by
  induction r generalizing before before' after after' m with
  | boundary => cases h_free
  | seq r s ih_r ih_s =>
    obtain ⟨m₁, m₂, rfl, h_r, h_s⟩ := h
    rw [isFree, Bool.and_eq_true] at h_free
    exact ⟨m₁, m₂, rfl, ih_r h_r h_free.1, ih_s h_s h_free.2⟩
  | empty => exact h
  | chars p least most => exact h
  | optional r ih => exact h.imp id fun h_m => ih h_m h_free

/-! ### The matcher -/

section

variable (isWord)

/-- The lengths of the matches at a place, in the order of the search. -/
def ends : Regex → Option Char → List Char → List ℕ
  | empty, _, _ => [0]
  | boundary, before, cs => if isBoundary isWord before cs.head? then [0] else []
  | chars p least most, _, cs =>
    -- greedy: the longest match is tried first
    let longest := match most with
      | none => (cs.takeWhile p).length
      | some n => min n (cs.takeWhile p).length
    (List.range' least (longest + 1 - least)).reverse
  | seq r s, before, cs => (ends r before cs).flatMap fun n =>
      (ends s ((cs.take n).getLast?.or before) (cs.drop n)).map (n + ·)
  -- an optional part is tried before it is left out
  | optional r, before, cs => ends r before cs ++ [0]

/-- The pieces of a text between the matches of a scan from left to right, of which the next
`skip` characters belong to a match. A match of no character is passed over. -/
def splitFrom (r : Regex) : Option Char → ℕ → List Char → List (List Char)
  | _, _, [] => [[]]
  | _, skip + 1, c :: cs => splitFrom r (some c) skip cs
  | before, 0, c :: cs =>
    match (r.ends isWord before (c :: cs)).head? with
    | some (n + 1) => [] :: splitFrom r (some c) n cs
    | _ => (splitFrom r (some c) 0 cs).modifyHead (c :: ·)

/-- `re.split(r, text)`. -/
def split (r : Regex) (text : List Char) : List (List Char) := r.splitFrom isWord none 0 text

/-- `re.fullmatch(r, text) is not None`. -/
def fullMatches (r : Regex) (text : List Char) : Bool :=
  (r.ends isWord none text).contains text.length

/-- `re.sub(r, replacement, text)`. -/
def sub (r : Regex) (replacement text : List Char) : List Char :=
  replacement.intercalate (r.split isWord text)

end

/-- The longest run of a kind is at least `n` characters when the first `n` are of that
kind. -/
theorem le_takeWhile_length_iff (p : Char → Bool) (cs : List Char) (n : ℕ) :
    n ≤ (cs.takeWhile p).length ↔ n ≤ cs.length ∧ ∀ c ∈ cs.take n, p c = true := by
  induction cs generalizing n with
  | nil => simp
  | cons c cs ih =>
    cases n with
    | zero => simp
    | succ n =>
      by_cases h_c : p c = true
      · simp [h_c, ih]
      · simp [h_c]

/-- A run may stop at any length between its bounds that the text still supports. -/
theorem mem_ends_chars (p : Char → Bool) (least : ℕ) (most : Option ℕ) {cs : List Char} {n : ℕ} :
    n ∈ (chars p least most).ends isWord before cs ↔
      least ≤ n ∧ n ≤ (cs.takeWhile p).length ∧ ∀ k ∈ most, n ≤ k := by
  have h_range : ∀ longest, n ∈ (List.range' least (longest + 1 - least)).reverse ↔
      least ≤ n ∧ n ≤ longest := by
    intro longest
    rw [List.mem_reverse, List.mem_range'_1]
    omega
  cases most with
  | none =>
    refine (h_range _).trans ?_
    simp
  | some k =>
    refine (h_range _).trans ?_
    simp only [Option.mem_def, Option.some.injEq, forall_eq']
    omega

/-- The matcher finds the matches of the pattern. -/
theorem mem_ends {cs : List Char} {n : ℕ} : n ∈ r.ends isWord before cs ↔
    n ≤ cs.length ∧ r.Matches isWord before (cs.take n) (cs.drop n).head? := by
  -- taking no character is taking the empty prefix
  have h_take : ∀ {cs : List Char} {n : ℕ}, n ≤ cs.length → (cs.take n = [] ↔ n = 0) := by
    intro cs n h_n
    rw [← List.length_eq_zero_iff, List.length_take]
    omega
  induction r generalizing before cs n with
  | empty =>
    rw [ends, List.mem_singleton]
    constructor
    · rintro rfl
      exact ⟨Nat.zero_le _, List.take_zero⟩
    · rintro ⟨h_n, h_m⟩
      exact (h_take h_n).mp h_m
  | boundary =>
    rw [ends]
    constructor
    · intro h
      split at h
      · next h_at =>
        obtain rfl := List.mem_singleton.mp h
        exact ⟨Nat.zero_le _, List.take_zero, h_at⟩
      · cases h
    · rintro ⟨h_n, h_m, h_at⟩
      obtain rfl := (h_take h_n).mp h_m
      have h_at : isBoundary isWord before cs.head? = true := h_at
      rw [if_pos h_at]
      exact List.mem_singleton_self _
  | chars p least most =>
    rw [mem_ends_chars, le_takeWhile_length_iff, Matches]
    constructor
    · rintro ⟨h_least, ⟨h_n, h_all⟩, h_most⟩
      rw [List.length_take_of_le h_n]
      exact ⟨h_n, h_all, h_least, h_most⟩
    · rintro ⟨h_n, h_all, h_least, h_most⟩
      rw [List.length_take_of_le h_n] at h_least h_most
      exact ⟨h_least, ⟨h_n, h_all⟩, h_most⟩
  | seq r s ih_r ih_s =>
    -- a match of a sequence splits where its first part ends
    rw [ends, List.mem_flatMap]
    constructor
    · rintro ⟨i, h_i, h_mem⟩
      obtain ⟨j, h_j, rfl⟩ := List.mem_map.mp h_mem
      obtain ⟨h_i, h_r⟩ := ih_r.mp h_i
      obtain ⟨h_j, h_s⟩ := ih_s.mp h_j
      rw [List.length_drop] at h_j
      rw [List.drop_drop] at h_s
      refine ⟨by omega, cs.take i, (cs.drop i).take j, List.take_add, ?_, h_s⟩
      have h_head : ((cs.drop i).take j).head?.or (cs.drop (i + j)).head? = (cs.drop i).head? := by
        rw [← List.drop_drop, ← List.head?_append, List.take_append_drop]
      rw [h_head]
      exact h_r
    · -- the two parts of the match are prefixes of what was left for them
      rintro ⟨h_n, m₁, m₂, h_m, h_r, h_s⟩
      have h_cs : cs = m₁ ++ (m₂ ++ cs.drop n) := by
        rw [← List.append_assoc, ← h_m, List.take_append_drop]
      have h_lengths : n = m₁.length + m₂.length := by
        rw [← List.length_append, ← h_m, List.length_take_of_le h_n]
      have h_take₁ : cs.take m₁.length = m₁ := by
        rw [h_cs, List.take_left]
      have h_drop₁ : cs.drop m₁.length = m₂ ++ cs.drop n := by
        conv_lhs => rw [h_cs]
        rw [List.drop_left]
      refine ⟨m₁.length, ih_r.mpr ⟨by omega, ?_⟩, List.mem_map.mpr
        ⟨m₂.length, ih_s.mpr ⟨?_, ?_⟩, h_lengths.symm⟩⟩
      · rw [h_take₁, h_drop₁, List.head?_append]
        exact h_r
      · rw [h_drop₁, List.length_append]
        omega
      · rw [h_take₁, h_drop₁, List.take_left, List.drop_left]
        exact h_s
  | optional r ih =>
    -- an optional part matches nothing as well
    have h_r : n ∈ r.ends isWord before cs ↔ _ := ih
    rw [ends, List.mem_append, List.mem_singleton, h_r]
    constructor
    · rintro (⟨h_n, h_m⟩ | rfl)
      · exact ⟨h_n, Or.inr h_m⟩
      · exact ⟨Nat.zero_le _, Or.inl List.take_zero⟩
    · rintro ⟨h_n, h_m | h_m⟩
      · exact Or.inr ((h_take h_n).mp h_m)
      · exact Or.inl ⟨h_n, h_m⟩

/-! ### The pieces of a scan -/

/-- The match that the matcher finds first, behind a character, is `p`. -/
def Finds (isWord : Char → Bool) (r : Regex) (before : Option Char) (p cs : List Char) : Prop :=
  (r.ends isWord before (p ++ cs)).head? = some p.length

/-- What the matcher finds is a match. -/
theorem Finds.matches {p cs : List Char} (h : r.Finds isWord before p cs) :
    r.Matches isWord before p cs.head? := by
  have h_m := (mem_ends.mp (List.mem_of_head? h)).2
  rwa [List.take_left, List.drop_left] at h_m

variable (isWord r) in
/-- The scan of a text that follows a character: a place is passed over if no match begins
there, and the match that the matcher finds is cut out. -/
inductive Cut : Option Char → List Char → List (List Char) → Prop
  | done {before : Option Char} : Cut before [] [[]]
  | keep {before : Option Char} {c : Char} {cs g : List Char} {gaps : List (List Char)} :
    (∀ m b, c :: cs = m ++ b → ¬ r.Matches isWord before m b.head?) →
      Cut (some c) cs (g :: gaps) → Cut before (c :: cs) ((c :: g) :: gaps)
  | cut {before : Option Char} {p cs : List Char} {gaps : List (List Char)} : p ≠ [] →
    r.Finds isWord before p cs → Cut (p.getLast?.or before) cs gaps →
      Cut before (p ++ cs) ([] :: gaps)

/-- A split has at least one piece. -/
theorem Cut.exists_cons (h : Cut isWord r before text gaps) : ∃ g gs, gaps = g :: gs := by
  cases h with
  | done => exact ⟨_, _, rfl⟩
  | keep _ _ => exact ⟨_, _, rfl⟩
  | cut _ _ _ => exact ⟨_, _, rfl⟩

/-- The end of the match that a scan skips stands between the same characters. -/
theorem splitFrom_skip (n : ℕ) (before : Option Char) (cs : List Char) (h : n ≤ cs.length) :
    r.splitFrom isWord before n cs =
      r.splitFrom isWord ((cs.take n).getLast?.or before) 0 (cs.drop n) := by
  induction cs generalizing n before with
  | nil =>
    obtain rfl : n = 0 := Nat.le_zero.mp h
    rfl
  | cons c cs ih =>
    cases n with
    | zero => rfl
    | succ n =>
      have h_n : n ≤ cs.length := Nat.le_of_succ_le_succ h
      rw [splitFrom, ih n (some c) h_n, List.take_succ_cons, List.getLast?_cons,
        List.drop_succ_cons]
      cases (cs.take n).getLast? <;> rfl

/-- The loop of `split` leaves pieces without a match between consecutive matches; the
induction is on the rest of the text. -/
theorem cut_splitFrom {P : Char → Prop} (h_needs : r.Needs P) (before : Option Char)
    (text : List Char) : Cut isWord r before text (r.splitFrom isWord before 0 text) := by
  -- an expression that needs a character has no empty match
  have h_solid : ∀ {before after}, ¬ r.Matches isWord before [] after := by
    intro before after h
    obtain ⟨c, h_c, -⟩ := h.exists_of_needs h_needs
    cases h_c
  -- the loop goes on behind a match, or behind one character
  induction h_len : text.length using Nat.strong_induction_on generalizing before text with
  | _ len ih =>
    cases text with
    | nil => exact Cut.done
    | cons c cs =>
      subst h_len
      rw [splitFrom]
      split
      · next n h_head =>
        have h_n : n ≤ cs.length :=
          Nat.le_of_succ_le_succ (mem_ends.mp (List.mem_of_head? h_head)).1
        rw [splitFrom_skip n _ cs h_n]
        -- the character in front of the rest is the last one of the match
        have h_last : ((c :: cs).take (n + 1)).getLast?.or before =
            (cs.take n).getLast?.or (some c) := by
          rw [List.take_succ_cons, List.getLast?_cons]
          cases (cs.take n).getLast? <;> rfl
        have h_rest := ih (cs.drop n).length (by rw [List.length_drop, List.length_cons]; omega)
          ((cs.take n).getLast?.or (some c)) (cs.drop n) rfl
        rw [← h_last] at h_rest
        have h_p : (c :: cs).take (n + 1) ≠ [] := List.cons_ne_nil _ _
        have h_length : ((c :: cs).take (n + 1)).length = n + 1 :=
          List.length_take_of_le (Nat.succ_le_succ h_n)
        have h_text : (c :: cs).take (n + 1) ++ cs.drop n = c :: cs :=
          List.take_append_drop (n + 1) (c :: cs)
        have h_found : r.Finds isWord before ((c :: cs).take (n + 1)) (cs.drop n) := by
          rw [Finds, h_length, h_text]
          exact h_head
        have h_cut := Cut.cut h_p h_found h_rest
        rw [h_text, h_last] at h_cut
        exact h_cut
      · next h_head =>
        -- without a match at this place there is none of any length
        have h_none : ∀ m b, c :: cs = m ++ b → ¬ r.Matches isWord before m b.head? := by
          intro m b h_cs h_m
          have h_mem : m.length ∈ r.ends isWord before (c :: cs) := by
            rw [mem_ends, h_cs, List.take_left, List.drop_left, List.length_append]
            exact ⟨Nat.le_add_right _ _, h_m⟩
          cases h_first : (r.ends isWord before (c :: cs)).head? with
          | none =>
            rw [List.head?_eq_none_iff] at h_first
            rw [h_first] at h_mem
            cases h_mem
          | some n =>
            cases n with
            | zero =>
              -- a match of no character is none of this pattern
              have h_zero := (mem_ends.mp (List.mem_of_head? h_first)).2
              exact h_solid h_zero
            | succ n => exact h_head n h_first
        have h_rest := ih cs.length (Nat.lt_succ_self _) (some c) cs rfl
        obtain ⟨g, gs, h_gaps⟩ := h_rest.exists_cons
        rw [h_gaps] at h_rest ⊢
        exact Cut.keep h_none h_rest

/-- The pieces of `split` and the matches between them make up the text. -/
theorem cut_split {P : Char → Prop} (h_needs : r.Needs P) (text : List Char) :
    Cut isWord r none text (r.split isWord text) :=
  cut_splitFrom h_needs none text

/-- The character in front of what follows a text is the text's last, or the one in front of
it. -/
theorem getLast?_append_or (a b : List Char) (before : Option Char) :
    (a ++ b).getLast?.or before = b.getLast?.or (a.getLast?.or before) := by
  rw [List.getLast?_append, Option.or_assoc]

/-- The place of a piece in the text: it stands at an end of the text or beside a match that
the scan cut out, and no match begins inside it. -/
theorem Cut.place (h : Cut isWord r before text gaps) {G G' : List (List Char)} {g : List Char}
    (h_gaps : gaps = G ++ g :: G') : ∃ u v, text = u ++ (g ++ v) ∧
      (G = [] ∧ u = [] ∨ G ≠ [] ∧
        ∃ u' p, u = u' ++ p ∧ r.Finds isWord (u'.getLast?.or before) p (g ++ v)) ∧
      (G' = [] ∧ v = [] ∨ G' ≠ [] ∧
        ∃ p v', v = p ++ v' ∧ p ≠ [] ∧ r.Finds isWord ((u ++ g).getLast?.or before) p v') ∧
      ∀ x m b, g ++ v = x ++ (m ++ b) → x.length < g.length →
        ¬ r.Matches isWord ((u ++ x).getLast?.or before) m b.head? := by
  induction h generalizing G g with
  | done =>
    -- the only piece is the whole text
    cases G with
    | nil =>
      obtain ⟨rfl, rfl⟩ := List.cons.inj h_gaps
      refine ⟨[], [], rfl, Or.inl ⟨rfl, rfl⟩, Or.inl ⟨rfl, rfl⟩, fun x _ _ _ h_x => ?_⟩
      exact absurd h_x (Nat.not_lt_zero _)
    | cons g₁ G => simp at h_gaps
  | @keep before c cs g₀ gaps h_none h_cut ih =>
    -- a character of a piece: it belongs to the first piece of the rest
    have h_last : ∀ x : List Char, x.getLast?.or (some c) = (c :: x).getLast?.or before :=
      fun x => (getLast?_append_or [c] x before).symm
    cases G with
    | nil =>
      -- the first piece grows by the character
      obtain ⟨rfl, rfl⟩ := List.cons.inj h_gaps
      obtain ⟨u, v, h_text, h_left, h_right, h_inside⟩ := ih (G := []) (g := g₀) rfl
      obtain rfl : u = [] := by
        rcases h_left with ⟨-, h_u⟩ | ⟨h_G, -⟩
        · exact h_u
        · exact absurd rfl h_G
      refine ⟨[], v, by rw [h_text]; rfl, Or.inl ⟨rfl, rfl⟩, ?_, ?_⟩
      · rw [List.nil_append, h_last] at h_right
        exact h_right
      · intro x m b h_eq h_x
        cases x with
        | nil =>
          refine h_none m b ?_
          rw [h_text]
          exact h_eq
        | cons d x =>
          obtain ⟨rfl, h_tail⟩ : c = d ∧ g₀ ++ v = x ++ (m ++ b) := List.cons.inj h_eq
          have h_at := h_inside x m b h_tail (Nat.lt_of_succ_lt_succ h_x)
          rw [List.nil_append, h_last] at h_at
          exact h_at
    | cons g₁ G =>
      -- the other pieces stay where they are
      obtain ⟨rfl, rfl⟩ := List.cons.inj h_gaps
      obtain ⟨u, v, h_text, h_left, h_right, h_inside⟩ := ih (G := g₀ :: G) (g := g) rfl
      refine ⟨c :: u, v, by rw [h_text]; rfl, Or.inr ⟨List.cons_ne_nil _ _, ?_⟩, ?_, ?_⟩
      · rcases h_left with ⟨h_G, -⟩ | ⟨-, u', p, rfl, h_p⟩
        · cases h_G
        · rw [h_last] at h_p
          exact ⟨c :: u', p, rfl, h_p⟩
      · rw [h_last] at h_right
        exact h_right
      · intro x m b h_eq h_x
        have h_at := h_inside x m b h_eq h_x
        rw [h_last] at h_at
        exact h_at
  | @cut before p cs gaps h_p h_m h_cut ih =>
    -- a match of the scan: the piece before it is empty
    cases G with
    | nil =>
      obtain ⟨rfl, rfl⟩ := List.cons.inj h_gaps
      obtain ⟨g₁, gs, rfl⟩ := h_cut.exists_cons
      refine ⟨[], p ++ cs, rfl, Or.inl ⟨rfl, rfl⟩,
        Or.inr ⟨List.cons_ne_nil _ _, p, cs, rfl, h_p, h_m⟩, fun x _ _ _ h_x => ?_⟩
      exact absurd h_x (Nat.not_lt_zero _)
    | cons g₁ G =>
      -- the other pieces come behind the match
      obtain ⟨rfl, rfl⟩ := List.cons.inj h_gaps
      obtain ⟨u, v, h_text, h_left, h_right, h_inside⟩ := ih (G := G) (g := g) rfl
      refine ⟨p ++ u, v, by rw [h_text, List.append_assoc],
        Or.inr ⟨List.cons_ne_nil _ _, ?_⟩, ?_, ?_⟩
      · rcases h_left with ⟨-, rfl⟩ | ⟨-, u', p', rfl, h_p'⟩
        · refine ⟨[], p, List.append_nil _, ?_⟩
          rw [h_text] at h_m
          exact h_m
        · refine ⟨p ++ u', p', (List.append_assoc _ _ _).symm, ?_⟩
          rw [getLast?_append_or]
          exact h_p'
      · rw [List.append_assoc, getLast?_append_or]
        exact h_right
      · intro x m b h_eq h_x
        rw [List.append_assoc, getLast?_append_or]
        exact h_inside x m b h_eq h_x

/-- A match in a piece stands in the text, if the scan cuts at boundaries or the pattern
asserts none. -/
theorem Cut.matches_of_piece (h : Cut isWord r none text gaps)
    (h_shelter : r.leads = true ∧ r.trails = true ∨ q.isFree = true) {g : List Char}
    (h_g : g ∈ gaps) {a b : List Char} (h_eq : g = a ++ (m ++ b)) (h_ne : m ≠ [])
    (h_m : q.Matches isWord a.getLast? m b.head?) :
    ∃ u v, text = u ++ (g ++ v) ∧ q.Matches isWord (u ++ a).getLast? m (b ++ v).head? ∧
      ¬ r.Matches isWord (u ++ a).getLast? m (b ++ v).head? := by
  obtain ⟨G, G', h_gaps⟩ := List.append_of_mem h_g
  -- the piece stands in the text between two matches of the scan, or at an end
  obtain ⟨u, v, h_text, h_left, h_right, h_inside⟩ := h.place h_gaps
  have h_pos : 0 < m.length := List.length_pos_iff.mpr h_ne
  refine ⟨u, v, h_text, ?_, ?_⟩
  · rcases h_shelter with ⟨h_leads, h_trails⟩ | h_free
    · obtain ⟨c, h_c⟩ : ∃ c, m.head? = some c := ⟨m.head h_ne, List.head?_eq_some_head h_ne⟩
      obtain ⟨d, h_d⟩ : ∃ d, m.getLast? = some d :=
        ⟨m.getLast h_ne, List.getLast?_eq_some_getLast h_ne⟩
      -- only at the edges of the piece the surroundings differ
      refine h_m.mono ?_ ?_
      · rw [h_c, Option.some_or, Option.some_or]
        intro h_at
        cases h_a : a.getLast? with
        | some e =>
          rw [List.getLast?_append, h_a, Option.some_or]
          rw [h_a] at h_at
          exact h_at
        | none =>
          rw [List.getLast?_eq_none_iff] at h_a
          subst h_a
          rw [List.append_nil]
          rcases h_left with ⟨-, rfl⟩ | ⟨-, u', p, rfl, h_p⟩
          · exact h_at
          · -- the match before the piece ends at a boundary
            have h_edge := h_p.matches.boundary_right h_trails
            rw [Option.or_none, h_eq, List.nil_append, List.append_assoc, List.head?_append, h_c]
              at h_edge
            rw [List.getLast?_append]
            exact h_edge
      · rw [h_d, Option.some_or, Option.some_or]
        intro h_at
        cases h_b : b.head? with
        | some e =>
          rw [List.head?_append, h_b, Option.some_or]
          rw [h_b] at h_at
          exact h_at
        | none =>
          rw [List.head?_eq_none_iff] at h_b
          subst h_b
          rw [List.nil_append]
          rcases h_right with ⟨-, rfl⟩ | ⟨-, p, v', rfl, -, h_p⟩
          · exact h_at
          · -- the match behind the piece begins at a boundary
            have h_edge := h_p.matches.boundary_left h_leads
            rw [Option.or_none, h_eq, List.append_nil, List.getLast?_append, List.getLast?_append,
              h_d] at h_edge
            rw [List.head?_append]
            exact h_edge
    · exact h_m.of_isFree h_free
  · -- a match inside the piece would have been found by the scan
    have h_x : a.length < g.length := by
      rw [h_eq, List.length_append, List.length_append]
      omega
    have h_at := h_inside a m (b ++ v) (by rw [h_eq, List.append_assoc, List.append_assoc]) h_x
    rw [Option.or_none] at h_at
    exact h_at

/-- An expression that needs a character has no empty match. -/
theorem Matches.ne_nil {P : Char → Prop} (h : r.Matches isWord before m after)
    (h_needs : r.Needs P) : m ≠ [] := by
  rintro rfl
  obtain ⟨c, h_c, -⟩ := h.exists_of_needs h_needs
  cases h_c

/-- What a piece of a split contains, the text contains: the other matches cannot have
sheltered it. -/
theorem Contains.of_split {P Q : Char → Prop} (h_r : r.Needs P) (h_q : q.Needs Q)
    (h_shelter : r.leads = true ∧ r.trails = true ∨ q.isFree = true) {g : List Char}
    (h_g : g ∈ r.split isWord text) (h : q.Contains isWord g) : q.Contains isWord text := by
  obtain ⟨a, m, b, h_eq, h_m⟩ := h
  obtain ⟨u, v, h_text, h_place, -⟩ :=
    (cut_split h_r text).matches_of_piece h_shelter h_g h_eq (h_m.ne_nil h_q) h_m
  refine ⟨u ++ a, m, b ++ v, ?_, h_place⟩
  rw [h_text, h_eq]
  simp only [List.append_assoc]

/-- A scan leaves no match of its own pattern. -/
theorem not_contains_split {P : Char → Prop} (h_r : r.Needs P)
    (h_shelter : r.leads = true ∧ r.trails = true ∨ r.isFree = true) {g : List Char}
    (h_g : g ∈ r.split isWord text) : ¬ r.Contains isWord g := by
  rintro ⟨a, m, b, h_eq, h_m⟩
  obtain ⟨u, v, -, h_place, h_none⟩ :=
    (cut_split h_r text).matches_of_piece h_shelter h_g h_eq (h_m.ne_nil h_r) h_m
  exact h_none h_place

/-- Where the text has no match of a pattern, a piece has one only beside a cut. -/
theorem exists_split_iff {P Q : Char → Prop} (h_r : r.Needs P) (h_q : q.Needs Q)
    (h_text : ¬ q.Contains isWord text) : (∃ g ∈ r.split isWord text, q.Contains isWord g) ↔
      ∃ g g', [g, g'] <:+: r.split isWord text ∧ (q.Ends isWord g ∨ q.Begins isWord g') := by
  constructor
  · rintro ⟨g, h_g, a, m, b, h_eq, h_m⟩
    have h_ne := h_m.ne_nil h_q
    -- the piece stands in the text between two matches of the scan
    obtain ⟨G, G', h_gaps⟩ := List.append_of_mem h_g
    obtain ⟨u, v, h_uv, h_left, h_right, -⟩ := (cut_split h_r text).place h_gaps
    by_cases h_begin : a = [] ∧ G ≠ []
    · -- the match begins where a match of the scan ends
      obtain ⟨rfl, h_G⟩ := h_begin
      obtain ⟨H, g₀, rfl⟩ := List.eq_nil_or_concat G |>.resolve_left h_G
      refine ⟨g₀, g, ⟨H, G', by rw [h_gaps]; simp⟩, Or.inr ⟨m, b, h_eq, h_m⟩⟩
    · -- the match ends where a match of the scan begins
      by_cases h_end : b = [] ∧ G' ≠ []
      · obtain ⟨rfl, h_G'⟩ := h_end
        obtain ⟨g', H, rfl⟩ := List.exists_cons_of_ne_nil h_G'
        refine ⟨g, g', ⟨G, H, by rw [h_gaps]; simp⟩, Or.inl ⟨a, m, ?_, h_m⟩⟩
        rw [h_eq, List.append_nil]
      · -- the characters beside the match are those of the text
        refine absurd ⟨u ++ a, m, b ++ v, ?_, ?_⟩ h_text
        · rw [h_uv, h_eq]
          simp only [List.append_assoc]
        · have h_before : (u ++ a).getLast? = a.getLast? := by
            rcases h_left with ⟨-, rfl⟩ | ⟨h_G, -⟩
            · rw [List.nil_append]
            · have h_a : a ≠ [] := fun h => h_begin ⟨h, h_G⟩
              rw [List.getLast?_append, List.getLast?_eq_some_getLast h_a, Option.some_or]
          have h_after : (b ++ v).head? = b.head? := by
            rcases h_right with ⟨-, rfl⟩ | ⟨h_G', -⟩
            · rw [List.append_nil]
            · have h_b : b ≠ [] := fun h => h_end ⟨h, h_G'⟩
              rw [List.head?_append, List.head?_eq_some_head h_b, Option.some_or]
          rw [h_before, h_after]
          exact h_m
  · -- a match at the edge of a piece is a match in it
    rintro ⟨g, g', ⟨H, H', h_gaps⟩, h⟩
    rcases h with h | h
    · exact ⟨g, by rw [← h_gaps]; simp, h.contains⟩
    · exact ⟨g', by rw [← h_gaps]; simp, h.contains⟩

/-- A text without a match is its only piece. -/
theorem Cut.eq_singleton (h : Cut isWord r before text gaps)
    (h_none : ∀ a m b, text = a ++ (m ++ b) → ¬ r.Matches isWord (a.getLast?.or before) m b.head?) :
    gaps = [text] := by
  induction h with
  | done => rfl
  | @keep before c cs g gaps _ h_cut ih =>
    have h_rest : g :: gaps = [cs] := by
      refine ih fun a m b h_eq h_m => ?_
      refine h_none (c :: a) m b (by rw [h_eq]; rfl) ?_
      rw [← List.singleton_append, getLast?_append_or]
      exact h_m
    obtain ⟨rfl, rfl⟩ := List.cons.inj h_rest
    rfl
  | @cut before p cs gaps h_p h_found _ _ =>
    exact absurd h_found.matches (h_none [] p cs rfl)

/-- Without a match the text is its own only piece. -/
theorem split_of_not_contains {P : Char → Prop} (h_r : r.Needs P)
    (h : ¬ r.Contains isWord text) : r.split isWord text = [text] := by
  refine (cut_split h_r text).eq_singleton fun a m b h_eq h_m => h ⟨a, m, b, h_eq, ?_⟩
  rw [Option.or_none] at h_m
  exact h_m

/-- Without a match nothing is replaced. -/
theorem sub_of_not_contains {P : Char → Prop} (h_r : r.Needs P)
    (h : ¬ r.Contains isWord text) (replacement : List Char) :
    r.sub isWord replacement text = text := by
  rw [sub, split_of_not_contains h_r h]
  exact List.intercalate_singleton

/-- A text is its only piece, or there are two pieces. -/
theorem Cut.eq_singleton_or (h : Cut isWord r before text gaps) :
    gaps = [text] ∨ ∃ g g' rest, gaps = g :: g' :: rest := by
  induction h with
  | done => exact Or.inl rfl
  | keep _ _ ih =>
    rcases ih with h_gaps | ⟨g, g', rest, h_gaps⟩
    · obtain ⟨rfl, rfl⟩ := List.cons.inj h_gaps
      exact Or.inl rfl
    · obtain ⟨rfl, rfl⟩ := List.cons.inj h_gaps
      exact Or.inr ⟨_, g', rest, rfl⟩
  | cut _ _ h_cut _ =>
    obtain ⟨g, gs, rfl⟩ := h_cut.exists_cons
    exact Or.inr ⟨[], g, gs, rfl⟩

/-- A text is left as it is, or the replacement is a part of the result. -/
theorem sub_eq_or_mem {P : Char → Prop} (h_r : r.Needs P) (replacement text : List Char) :
    r.sub isWord replacement text = text ∨
      ∀ c ∈ replacement, c ∈ r.sub isWord replacement text := by
  unfold sub
  rcases (cut_split h_r text).eq_singleton_or with h_gaps | ⟨g, g', rest, h_gaps⟩
  · rw [h_gaps]
    exact Or.inl List.intercalate_singleton
  · rw [h_gaps, List.intercalate_cons_cons]
    refine Or.inr fun c h_c => ?_
    exact List.mem_append_left _ (List.mem_append_right _ h_c)

/-! ### A replacement in brackets -/

/-- A character outside `\w` is to a match what the end of the text is. -/
theorem matches_before_iff {c : Char} (h_c : isWord c = false) :
    r.Matches isWord (some c) m after ↔ r.Matches isWord none m after := by
  have h_or : ∀ o o' : Option Char,
      isBoundary isWord (o.or (some c)) o' = isBoundary isWord (o.or none) o' := by
    intro o o'
    cases o <;> simp [isBoundary, h_c]
  have h_left : ∀ o : Option Char, isBoundary isWord (some c) o = isBoundary isWord none o :=
    h_or none
  constructor
  · intro h
    exact h.mono (fun h_at => by rw [← h_left]; exact h_at) fun h_at => by rw [← h_or]; exact h_at
  · intro h
    exact h.mono (fun h_at => by rw [h_left]; exact h_at) fun h_at => by rw [h_or]; exact h_at

/-- For a match it is the same whether the text ends or goes on with a character outside
words. -/
theorem matches_after_iff {c : Char} (h_c : isWord c = false) :
    r.Matches isWord before m (some c) ↔ r.Matches isWord before m none := by
  have h_or : ∀ o o' : Option Char,
      isBoundary isWord o (o'.or (some c)) = isBoundary isWord o (o'.or none) := by
    intro o o'
    cases o' <;> simp [isBoundary, h_c]
  have h_right : ∀ o : Option Char, isBoundary isWord o (some c) = isBoundary isWord o none :=
    fun o => h_or o none
  constructor
  · intro h
    exact h.mono (fun h_at => by rw [← h_or]; exact h_at) fun h_at => by rw [← h_right]; exact h_at
  · intro h
    exact h.mono (fun h_at => by rw [h_or]; exact h_at) fun h_at => by rw [h_right]; exact h_at

/-- A stretch without a character stands on one side of it. -/
theorem append_eq_append_cons {a b u v : List Char} {c : Char} (h_c : c ∉ m)
    (h : a ++ (m ++ b) = u ++ c :: v) :
    (∃ y, u = a ++ (m ++ y) ∧ b = y ++ c :: v) ∨ ∃ z, a = u ++ c :: z ∧ v = z ++ (m ++ b) := by
  have h_within : ∀ x, m ++ b = x ++ c :: v → ∃ y, x = m ++ y ∧ b = y ++ c :: v := by
    intro x h_x
    rcases List.append_eq_append_iff.mp h_x with ⟨y, rfl, h_b⟩ | ⟨y, rfl, h_y⟩
    · exact ⟨y, rfl, h_b⟩
    · cases y with
      | nil => exact ⟨[], by simp, h_y.symm⟩
      | cons d y =>
        obtain ⟨rfl, -⟩ := List.cons.inj h_y
        exact absurd (by simp) h_c
  rcases List.append_eq_append_iff.mp h with ⟨x, rfl, h_x⟩ | ⟨x, rfl, h_x⟩
  · obtain ⟨y, rfl, h_b⟩ := h_within x h_x
    exact Or.inl ⟨y, rfl, h_b⟩
  · cases x with
    | nil =>
      obtain ⟨y, h_y, h_b⟩ := h_within [] h_x.symm
      obtain ⟨rfl, rfl⟩ := List.append_eq_nil_iff.mp h_y.symm
      exact Or.inl ⟨[], by simp, h_b⟩
    | cons d x =>
      obtain ⟨rfl, h_v⟩ := List.cons.inj h_x
      exact Or.inr ⟨x, rfl, h_v⟩

/-- A character that the pattern does not use, and that is none of `\w`, keeps the texts on
its two sides apart. -/
theorem contains_append_cons {c : Char} (h_c : isWord c = false) (h_uses : r.uses c = false)
    (u v : List Char) :
    r.Contains isWord (u ++ c :: v) ↔ r.Contains isWord u ∨ r.Contains isWord v := by
  constructor
  · rintro ⟨a, m, b, h_eq, h_m⟩
    have h_mem : c ∉ m := fun h => by rw [h_m.uses h] at h_uses; cases h_uses
    rcases append_eq_append_cons h_mem h_eq.symm with ⟨y, rfl, rfl⟩ | ⟨z, rfl, rfl⟩
    · refine Or.inl ⟨a, m, y, rfl, ?_⟩
      cases y with
      | nil => exact (matches_after_iff h_c).mp h_m
      | cons d y => exact h_m
    · refine Or.inr ⟨z, m, b, rfl, ?_⟩
      rw [List.getLast?_append, List.getLast?_cons] at h_m
      cases h_z : z.getLast? with
      | none =>
        rw [h_z] at h_m
        exact (matches_before_iff h_c).mp h_m
      | some d =>
        rw [h_z] at h_m
        exact h_m
  · rintro (⟨a, m, b, rfl, h_m⟩ | ⟨a, m, b, rfl, h_m⟩)
    · refine ⟨a, m, b ++ c :: v, by simp only [List.append_assoc], ?_⟩
      cases b with
      | nil => exact (matches_after_iff h_c).mpr h_m
      | cons d b => exact h_m
    · refine ⟨u ++ c :: a, m, b, by simp, ?_⟩
      rw [List.getLast?_append, List.getLast?_cons]
      cases h_a : a.getLast? with
      | none =>
        rw [h_a] at h_m
        exact (matches_before_iff h_c).mpr h_m
      | some d =>
        rw [h_a] at h_m
        exact h_m

/-- The replacement `[word]`. -/
def bracketed (word : List Char) : List Char := '[' :: (word ++ [']'])

/-- No match of the pattern has a bracket or is part of the word. -/
structure Foreign (isWord : Char → Bool) (q : Regex) (word : List Char) : Prop where
  opening : isWord '[' = false ∧ q.uses '[' = false
  closing : isWord ']' = false ∧ q.uses ']' = false
  needs : q.Needs fun c => c ∉ word

/-- Pieces joined by a bracketed word that is foreign to the expression contain a match only
inside a piece. -/
theorem contains_intercalate_iff {word : List Char} (h : q.Foreign isWord word) (g : List Char)
    (gs : List (List Char)) : q.Contains isWord ((bracketed word).intercalate (g :: gs)) ↔
      ∃ g' ∈ g :: gs, q.Contains isWord g' := by
  induction gs generalizing g with
  | nil => simp
  | cons g' gs ih =>
    have h_text : (bracketed word).intercalate (g :: g' :: gs) =
        g ++ '[' :: (word ++ ']' :: (bracketed word).intercalate (g' :: gs)) := by
      rw [List.intercalate_cons_cons, bracketed]
      simp
    have h_word : ¬ q.Contains isWord word := by
      rintro ⟨a, m, b, rfl, h_m⟩
      obtain ⟨c, h_c, h_not⟩ := h_m.exists_of_needs h.needs
      exact h_not (List.mem_append_right _ (List.mem_append_left _ h_c))
    rw [h_text, contains_append_cons h.opening.1 h.opening.2,
      contains_append_cons h.closing.1 h.closing.2, ih]
    constructor
    · rintro (h_g | h_w | ⟨x, h_x, h_q⟩)
      · exact ⟨g, List.mem_cons_self, h_g⟩
      · exact absurd h_w h_word
      · exact ⟨x, List.mem_cons_of_mem _ h_x, h_q⟩
    · rintro ⟨x, h_x, h_q⟩
      rcases List.mem_cons.mp h_x with rfl | h_x
      · exact Or.inl h_q
      · exact Or.inr (Or.inr ⟨x, h_x, h_q⟩)

/-- The result of a substitution has the matches of the pieces. -/
theorem contains_sub_iff {P : Char → Prop} (h_r : r.Needs P) {word : List Char}
    (h : q.Foreign isWord word) (text : List Char) :
    q.Contains isWord (r.sub isWord (bracketed word) text) ↔
      ∃ g ∈ r.split isWord text, q.Contains isWord g := by
  have h_cut : Cut isWord r none text (r.split isWord text) := cut_split h_r text
  obtain ⟨g, gs, h_gaps⟩ := h_cut.exists_cons
  rw [sub, h_gaps]
  exact contains_intercalate_iff h g gs

end Regex

end Framework
