import Mathlib.Data.List.Basic

/-!
# Two ways to read lines

A text is read line by line (`textLines`), or with calls of `readline` that return at most so many
characters, so that a long line comes in pieces. A piece of a long line has as many characters as
a call may return. So if no piece is that long, the pieces are the lines (`readlines_eq`).
-/

namespace Framework

/-- What universal newlines make of a text: every ending of a line becomes a newline. -/
def translateNewlines : List Char → List Char
  | [] => []
  | '\r' :: '\n' :: cs => '\n' :: translateNewlines cs
  | c :: cs => (if c = '\r' then '\n' else c) :: translateNewlines cs

/-- The lines with one more character in front. -/
def consLine (c : Char) : List (List Char) → List (List Char)
  | [] => [[c]]
  | line :: lines => (c :: line) :: lines

/-- The lines of a text, each with the newline at its end. -/
def textLines : List Char → List (List Char)
  | [] => []
  | c :: cs => if c = '\n' then [c] :: textLines cs else consLine c (textLines cs)

/-- The first line of a text and what follows it. -/
def firstLine : List Char → List Char × List Char
  | [] => ([], [])
  | c :: cs =>
    if c = '\n' then ([c], cs) else (c :: (firstLine cs).1, (firstLine cs).2)

/-- `readline(limit)`: the first line, or as much of it as the limit allows. -/
def readline : ℕ → List Char → List Char × List Char
  | 0, cs => ([], cs)
  | _ + 1, [] => ([], [])
  | limit + 1, c :: cs =>
    if c = '\n' then ([c], cs) else (c :: (readline limit cs).1, (readline limit cs).2)

/-- The pieces that calls of `readline` return until one of them is empty. Each call takes a
character, so the length of the text is enough fuel. -/
def pieces (limit : ℕ) : ℕ → List Char → List (List Char)
  | 0, _ => []
  | fuel + 1, cs =>
    if (readline limit cs).1 = [] then []
    else (readline limit cs).1 :: pieces limit fuel (readline limit cs).2

/-- The pieces of a text. -/
def readlines (limit : ℕ) (cs : List Char) : List (List Char) := pieces limit (cs.length + 1) cs

/-! ### The lines of a text -/

/-- A text that is not empty starts with its first line. -/
theorem textLines_eq_cons {cs : List Char} (h : cs ≠ []) :
    textLines cs = (firstLine cs).1 :: textLines (firstLine cs).2 := by
  induction cs with
  | nil => exact absurd rfl h
  | cons c cs ih =>
    by_cases h_newline : c = '\n'
    · rw [textLines, firstLine, if_pos h_newline, if_pos h_newline]
    · rw [textLines, firstLine, if_neg h_newline, if_neg h_newline]
      cases cs with
      | nil => rfl
      | cons d cs =>
        rw [ih (List.cons_ne_nil d cs)]
        rfl

/-- The first line of a text is not empty. -/
theorem firstLine_ne_nil {cs : List Char} (h : cs ≠ []) : (firstLine cs).1 ≠ [] := by
  cases cs with
  | nil => exact absurd rfl h
  | cons c cs =>
    rw [firstLine]
    split <;> exact List.cons_ne_nil _ _

/-- The first line and the rest make up the text. -/
theorem length_firstLine (cs : List Char) :
    (firstLine cs).1.length + (firstLine cs).2.length = cs.length := by
  induction cs with
  | nil => rfl
  | cons c cs ih =>
    rw [firstLine]
    split
    · exact Nat.add_comm 1 _
    · show (firstLine cs).1.length + 1 + (firstLine cs).2.length = cs.length + 1
      omega

/-! ### Pieces that are lines -/

/-- A call returns the line, or as many characters as it may. -/
theorem readline_cases (limit : ℕ) (cs : List Char) :
    readline limit cs = firstLine cs ∨ (readline limit cs).1.length = limit := by
  induction cs generalizing limit with
  | nil =>
    cases limit with
    | zero => exact .inl rfl
    | succ limit => exact .inl rfl
  | cons c cs ih =>
    cases limit with
    | zero => exact .inr rfl
    | succ limit =>
      by_cases h_newline : c = '\n'
      · exact .inl (by rw [readline, firstLine, if_pos h_newline, if_pos h_newline])
      · rw [readline, firstLine, if_neg h_newline, if_neg h_newline]
        rcases ih limit with h_same | h_full
        · exact .inl (by rw [h_same])
        · exact .inr (by rw [List.length_cons, h_full])

/-- A piece that is shorter than a call allows is the line. -/
theorem readline_eq_firstLine {limit : ℕ} {cs : List Char} (h_limit : 0 < limit)
    (h : (readline limit cs).1 ≠ [] → (readline limit cs).1.length < limit) :
    readline limit cs = firstLine cs := by
  rcases readline_cases limit cs with h_same | h_full
  · exact h_same
  · have h_lt := h (List.ne_nil_of_length_pos (by omega))
    omega

/-- Reading by pieces reads the lines, if none of them is too long. -/
theorem pieces_eq {limit fuel : ℕ} {cs : List Char} (h_limit : 0 < limit)
    (h_fuel : cs.length < fuel) (h : ∀ piece ∈ pieces limit fuel cs, piece.length < limit) :
    pieces limit fuel cs = textLines cs := by
  induction fuel generalizing cs with
  | zero => omega
  | succ fuel ih =>
    have h_same : readline limit cs = firstLine cs := by
      refine readline_eq_firstLine h_limit fun h_ne => h _ ?_
      rw [pieces, if_neg h_ne]
      exact List.mem_cons_self
    unfold pieces at h ⊢
    rw [h_same] at h ⊢
    by_cases h_nil : cs = []
    · subst h_nil
      rfl
    · have h_ne := firstLine_ne_nil h_nil
      have h_length := length_firstLine cs
      have h_pos := List.length_pos_of_ne_nil h_ne
      rw [if_neg h_ne] at h ⊢
      rw [textLines_eq_cons h_nil, ih (by omega) fun piece h_piece =>
        h piece (List.mem_cons_of_mem _ h_piece)]

/-- **Lines and pieces.** Where no piece is as long as a call allows, the pieces are the lines. -/
theorem readlines_eq {limit : ℕ} {cs : List Char} (h_limit : 0 < limit)
    (h : ∀ piece ∈ readlines limit cs, piece.length < limit) : readlines limit cs = textLines cs :=
  pieces_eq h_limit (Nat.lt_succ_self _) h

end Framework
