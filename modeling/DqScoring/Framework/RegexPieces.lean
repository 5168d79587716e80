import DqScoring.Framework.Regex

/-!
# Substitutions one after the other

Several substitutions, each with a replacement in brackets (`Regex.subs`). A bracket is no
character of the patterns and none of `\w`, so that it is to a pattern what the end of the text is
(`Regex.sub_append_cons`). Each substitution therefore works on the pieces that the earlier ones
leave, as if every piece were a text of its own (`Regex.subs_intercalate`), and a pattern has a
match in the result exactly if it has one in a last piece (`Regex.contains_subs_iff`).

`Regex.IsStretch` says of a part of a text that it is such a piece, by what stands beside it and by
what does not begin inside it.
-/

namespace Framework

namespace Regex

variable {isWord : Char → Bool} {q r : Regex} {before before' after : Option Char}
  {m text : List Char}

/-! ### A character that keeps texts apart -/

/-- Only whether it is one of `\w` matters of the character before. -/
theorem ends_congr (h : before.any isWord = before'.any isWord) (cs : List Char) :
    r.ends isWord before cs = r.ends isWord before' cs := by
  induction r generalizing before before' cs with
  | empty => rfl
  | boundary =>
    show (if (_ != _) = true then [0] else []) = (if (_ != _) = true then [0] else [])
    rw [h]
  | chars p least most => rfl
  | seq r s ih_r ih_s =>
    rw [ends, ends, ih_r h cs]
    refine congrArg List.flatten (List.map_congr_left fun n _ => congrArg _ ?_)
    refine ih_s ?_ _
    cases (cs.take n).getLast? with
    | none => exact h
    | some c => rfl
  | optional r ih => rw [ends, ends, ih h cs]

/-- A match does not go beyond a character that the pattern does not use, and a character outside of
`\w` is to it what the end of the text is. -/
theorem ends_append_cons {c : Char} (h_c : isWord c = false) (h_uses : r.uses c = false)
    (before : Option Char) (cs v : List Char) :
    r.ends isWord before (cs ++ c :: v) = r.ends isWord before cs := by
  induction r generalizing before cs with
  | empty => rfl
  | boundary =>
    show (if (_ != _) = true then [0] else []) = (if (_ != _) = true then [0] else [])
    cases cs with
    | nil =>
      have h_any : (some c).any isWord = (none : Option Char).any isWord := h_c
      rw [List.nil_append, List.head?_cons, h_any]
      rfl
    | cons d cs => rfl
  | chars p least most =>
    have h_take : (cs ++ c :: v).takeWhile p = cs.takeWhile p := by
      have h_p : p c = false := h_uses
      rw [List.takeWhile_append]
      split
      · next h_all =>
        rw [List.takeWhile_cons, h_p, if_neg Bool.false_ne_true, List.append_nil]
        exact ((List.takeWhile_prefix p).eq_of_length h_all).symm
      · rfl
    simp only [ends, h_take]
  | seq r s ih_r ih_s =>
    obtain ⟨h_r, h_s⟩ := Bool.or_eq_false_iff.mp h_uses
    rw [ends, ends, ih_r h_r]
    refine congrArg List.flatten (List.map_congr_left fun n h_n => ?_)
    have h_le := (mem_ends.mp h_n).1
    rw [List.take_append_of_le_length h_le, List.drop_append_of_le_length h_le, ih_s h_s]
  | optional r ih => rw [ends, ends, ih h_uses]

/-- The loop of `split` sees of what stands in front only whether it is a word character. -/
theorem splitFrom_congr (h : before.any isWord = before'.any isWord) (cs : List Char) :
    r.splitFrom isWord before 0 cs = r.splitFrom isWord before' 0 cs := by
  cases cs with
  | nil => rfl
  | cons c cs => rw [splitFrom, splitFrom, ends_congr h]

/-- A split has at least one piece. -/
theorem splitFrom_ne_nil (skip : ℕ) (cs : List Char) :
    r.splitFrom isWord before skip cs ≠ [] := by
  induction cs generalizing before skip with
  | nil =>
    cases skip <;> exact List.cons_ne_nil _ _
  | cons c cs ih =>
    cases skip with
    | succ skip => exact ih skip
    | zero =>
      rw [splitFrom]
      split
      · exact List.cons_ne_nil _ _
      · intro h_nil
        exact ih 0 (List.modifyHead_eq_nil_iff.mp h_nil)

/-- A character in front of the first piece comes first. -/
theorem intercalate_modifyHead_cons (replacement : List Char) (c : Char)
    {gaps : List (List Char)} (h : gaps ≠ []) :
    replacement.intercalate (gaps.modifyHead (c :: ·)) = c :: replacement.intercalate gaps := by
  match gaps, h with
  | [g], _ => simp
  | g :: g' :: gaps, _ =>
    rw [List.modifyHead_cons, List.intercalate_cons_cons, List.intercalate_cons_cons]
    rfl

/-- An empty first piece leaves the replacement in front. -/
theorem intercalate_nil_cons (replacement : List Char) {gaps : List (List Char)} (h : gaps ≠ []) :
    replacement.intercalate ([] :: gaps) = replacement ++ replacement.intercalate gaps := by
  obtain ⟨g, gaps, rfl⟩ := List.exists_cons_of_ne_nil h
  rw [List.intercalate_cons_cons]
  rfl

/-- The scan up to such a character, and behind it. The induction follows the scan, which skips the
rest of a match that it has cut out. -/
theorem intercalate_splitFrom_append_cons {c : Char} (h_c : isWord c = false)
    (h_uses : r.uses c = false) (replacement : List Char) (before : Option Char) {skip : ℕ}
    (u v : List Char) (h_skip : skip ≤ u.length) :
    replacement.intercalate (r.splitFrom isWord before skip (u ++ c :: v)) =
      replacement.intercalate (r.splitFrom isWord before skip u) ++
        c :: replacement.intercalate (r.split isWord v) := by
  induction u generalizing before skip with
  | nil =>
    obtain rfl : skip = 0 := Nat.le_zero.mp h_skip
    have h_any : (some c).any isWord = (none : Option Char).any isWord := h_c
    have h_rest : r.splitFrom isWord (some c) 0 v = r.split isWord v := splitFrom_congr h_any v
    have h_ends := ends_append_cons h_c h_uses before [] v
    rw [List.nil_append] at h_ends ⊢
    show _ = replacement.intercalate [[]] ++ _
    rw [splitFrom]
    split
    · next n h_head =>
      -- no match begins at the character itself
      rw [h_ends] at h_head
      exact absurd (mem_ends.mp (List.mem_of_head? h_head)).1 (Nat.not_succ_le_zero n)
    · rw [intercalate_modifyHead_cons _ _ (splitFrom_ne_nil 0 v), h_rest]
      rfl
  | cons d u ih =>
    -- a match that is under way skips the character
    cases skip with
    | succ skip => exact ih (some d) (Nat.le_of_succ_le_succ h_skip)
    | zero =>
      -- the scan finds the same match here, whatever stands behind the separator
      have h_ends := ends_append_cons h_c h_uses before (d :: u) v
      rw [List.cons_append] at h_ends ⊢
      rw [splitFrom, splitFrom, h_ends]
      split
      · next n h_head =>
        have h_n : n ≤ u.length :=
          Nat.le_of_succ_le_succ (mem_ends.mp (List.mem_of_head? h_head)).1
        rw [intercalate_nil_cons _ (splitFrom_ne_nil n _),
          intercalate_nil_cons _ (splitFrom_ne_nil n _), ih (some d) h_n, List.append_assoc]
      · rw [intercalate_modifyHead_cons _ _ (splitFrom_ne_nil 0 _),
          intercalate_modifyHead_cons _ _ (splitFrom_ne_nil 0 _), ih (some d) (Nat.zero_le _)]
        rfl

/-- A substitution works on the two sides of such a character apart. -/
theorem sub_append_cons {c : Char} (h_c : isWord c = false) (h_uses : r.uses c = false)
    (replacement u v : List Char) :
    r.sub isWord replacement (u ++ c :: v) =
      r.sub isWord replacement u ++ c :: r.sub isWord replacement v :=
  intercalate_splitFrom_append_cons h_c h_uses replacement none u v (Nat.zero_le _)

/-! ### Substitutions with brackets -/

/-- A word that is foreign to the expression is not touched. -/
theorem sub_eq_of_foreign {word : List Char} (h : r.Foreign isWord word) (replacement : List Char) :
    r.sub isWord replacement word = word := by
  refine sub_of_not_contains h.needs ?_ replacement
  rintro ⟨a, m, b, rfl, h_m⟩
  obtain ⟨c, h_c, h_not⟩ := h_m.exists_of_needs h.needs
  exact h_not (List.mem_append_right _ (List.mem_append_left _ h_c))

/-- A substitution works on the pieces of an earlier one. -/
theorem sub_intercalate {word : List Char} (h : r.Foreign isWord word) (replacement g : List Char)
    (gs : List (List Char)) :
    r.sub isWord replacement ((bracketed word).intercalate (g :: gs)) =
      (bracketed word).intercalate ((g :: gs).map (r.sub isWord replacement)) := by
  induction gs generalizing g with
  | nil =>
    rw [List.map_singleton, List.intercalate_singleton, List.intercalate_singleton]
  | cons g' gs ih =>
    have h_text : ∀ (g g' : List Char) (gs : List (List Char)),
        (bracketed word).intercalate (g :: g' :: gs) =
          g ++ '[' :: (word ++ ']' :: (bracketed word).intercalate (g' :: gs)) := by
      intro g g' gs
      rw [List.intercalate_cons_cons, bracketed]
      simp
    rw [h_text, sub_append_cons h.opening.1 h.opening.2, sub_append_cons h.closing.1 h.closing.2,
      sub_eq_of_foreign h, ih, List.map_cons, List.map_cons, List.map_cons, h_text]

section

variable (isWord)

/-- Substitutions, one after the other: each pattern with the word of its replacement. -/
def subs (rules : List (Regex × List Char)) (text : List Char) : List Char :=
  rules.foldl (fun text rule => rule.1.sub isWord (bracketed rule.2) text) text

/-- The pieces that the patterns leave, each cutting the pieces of the one before. -/
def pieces : List Regex → List Char → List (List Char)
  | [], text => [text]
  | r :: rs, text => (r.split isWord text).flatMap (pieces rs)

/-- No pattern has a match in the words, or uses the brackets. -/
def Keeps (rules : List (Regex × List Char)) : Prop :=
  ∀ rule ∈ rules, ∀ rule' ∈ rules, rule.1.Foreign isWord rule'.2

end

variable {rules : List (Regex × List Char)}

/-- Substitutions pass over bracketed words between the pieces, so they act piece by piece.
-/
theorem subs_intercalate {word : List Char} (h : ∀ rule ∈ rules, rule.1.Foreign isWord word)
    (g : List Char) (gs : List (List Char)) :
    subs isWord rules ((bracketed word).intercalate (g :: gs)) =
      (bracketed word).intercalate ((g :: gs).map (subs isWord rules)) := by
  induction rules generalizing g gs with
  | nil =>
    show _ = (bracketed word).intercalate ((g :: gs).map id)
    rw [List.map_id]
    rfl
  | cons rule rules ih =>
    obtain ⟨h_rule, h_rules⟩ := List.forall_mem_cons.mp h
    show subs isWord rules (rule.1.sub isWord _ _) = _
    rw [sub_intercalate h_rule, List.map_cons, ih h_rules, ← List.map_cons, List.map_map]
    rfl

/-- The result of substitutions has the matches of the last pieces. -/
theorem contains_subs_iff (h_rules : Keeps isWord rules)
    (h : ∀ rule ∈ rules, q.Foreign isWord rule.2) (text : List Char) :
    q.Contains isWord (subs isWord rules text) ↔
      ∃ g ∈ pieces isWord (rules.map Prod.fst) text, q.Contains isWord g := by
  induction rules generalizing text with
  | nil =>
    show q.Contains isWord text ↔ ∃ g ∈ [text], q.Contains isWord g
    simp
  | cons rule rules ih =>
    obtain ⟨h_rule, h_later⟩ := List.forall_mem_cons.mp h
    have h_each : ∀ rule' ∈ rules, rule'.1.Foreign isWord rule.2 := fun rule' h_mem =>
      h_rules rule' (List.mem_cons_of_mem _ h_mem) rule List.mem_cons_self
    have h_rest : Keeps isWord rules := fun rule₁ h₁ rule₂ h₂ =>
      h_rules rule₁ (List.mem_cons_of_mem _ h₁) rule₂ (List.mem_cons_of_mem _ h₂)
    have h_cut : Cut isWord rule.1 none text (rule.1.split isWord text) :=
      cut_split (h_rules rule List.mem_cons_self rule List.mem_cons_self).needs text
    obtain ⟨g, gs, h_gaps⟩ := h_cut.exists_cons
    have h_subs : subs isWord (rule :: rules) text =
        (bracketed rule.2).intercalate ((g :: gs).map (subs isWord rules)) := by
      rw [← subs_intercalate h_each, ← h_gaps]
      rfl
    have h_pieces : pieces isWord ((rule :: rules).map Prod.fst) text =
        (g :: gs).flatMap (pieces isWord (rules.map Prod.fst)) := by
      rw [← h_gaps]
      rfl
    rw [h_subs, h_pieces, List.map_cons, contains_intercalate_iff h_rule, ← List.map_cons]
    constructor
    · rintro ⟨_, h_mem, h_contains⟩
      obtain ⟨g', h_g', rfl⟩ := List.mem_map.mp h_mem
      obtain ⟨x, h_x, h_q⟩ := (ih h_rest h_later g').mp h_contains
      exact ⟨x, List.mem_flatMap.mpr ⟨g', h_g', h_x⟩, h_q⟩
    · rintro ⟨x, h_mem, h_q⟩
      obtain ⟨g', h_g', h_x⟩ := List.mem_flatMap.mp h_mem
      exact ⟨_, List.mem_map_of_mem h_g', (ih h_rest h_later g').mpr ⟨x, h_x, h_q⟩⟩

/-- Splitting by one list and then by another splits by both. -/
theorem mem_pieces_append {rs rs' : List Regex} {g : List Char} :
    g ∈ pieces isWord (rs ++ rs') text ↔
      ∃ g' ∈ pieces isWord rs text, g ∈ pieces isWord rs' g' := by
  induction rs generalizing text with
  | nil =>
    show g ∈ pieces isWord rs' text ↔ ∃ g' ∈ [text], g ∈ pieces isWord rs' g'
    simp
  | cons r rs ih =>
    constructor
    · intro h_g
      obtain ⟨x, h_x, h_g⟩ := List.mem_flatMap.mp h_g
      obtain ⟨g', h_g', h_g⟩ := ih.mp h_g
      exact ⟨g', List.mem_flatMap.mpr ⟨x, h_x, h_g'⟩, h_g⟩
    · rintro ⟨g', h_g', h_g⟩
      obtain ⟨x, h_x, h_g'⟩ := List.mem_flatMap.mp h_g'
      exact List.mem_flatMap.mpr ⟨x, h_x, ih.mpr ⟨g', h_g', h_g⟩⟩

/-! ### The place of a piece -/

section

variable (isWord)

/-- No match of the pattern begins inside `w`, which stands behind `a` and before `b`. -/
def NoneBegins (r : Regex) (a w b : List Char) : Prop :=
  ∀ x m y, w ++ b = x ++ (m ++ y) → x.length < w.length →
    ¬ r.Matches isWord (a ++ x).getLast? m y.head?

/-- The part `g` of a text ends, on each side, where the text ends or where a match of the pattern
stands, and no match begins inside it. -/
def IsPiece (r : Regex) (text g : List Char) : Prop :=
  ∃ u v, text = u ++ (g ++ v) ∧
    (u = [] ∨ ∃ u' p, u = u' ++ p ∧ r.Finds isWord u'.getLast? p (g ++ v)) ∧
    (v = [] ∨ ∃ p v', v = p ++ v' ∧ r.Finds isWord (u ++ g).getLast? p v') ∧
    r.NoneBegins isWord u g v

/-- A part of a text outside of the matches of the first pattern, of this part the part outside of
the matches of the second, and so on. -/
def IsStretch : List Regex → List Char → List Char → Prop
  | [], text, g => g = text
  | r :: rs, text, g => ∃ g', r.IsPiece isWord text g' ∧ IsStretch rs g' g

end

/-- No match begins in the left part. -/
theorem NoneBegins.left {a w w' b : List Char} (h : r.NoneBegins isWord a (w ++ w') b) :
    r.NoneBegins isWord a w (w' ++ b) := by
  intro x m y h_eq h_x
  refine h x m y ((List.append_assoc _ _ _).trans h_eq) ?_
  rw [List.length_append]
  omega

/-- No match begins in the right part. -/
theorem NoneBegins.right {a w w' b : List Char} (h : r.NoneBegins isWord a (w ++ w') b) :
    r.NoneBegins isWord (a ++ w) w' b := by
  intro x m y h_eq h_x
  have h_at := h (w ++ x) m y (by rw [List.append_assoc, h_eq, List.append_assoc])
    (by rw [List.length_append, List.length_append]; omega)
  rwa [← List.append_assoc] at h_at

/-- What a scan leaves, with the matches beside it that it has cut out. -/
theorem place_of_split {P : Char → Prop} (h_r : r.Needs P) {G G' : List (List Char)}
    {g : List Char} (h_gaps : r.split isWord text = G ++ g :: G') :
    ∃ u v, text = u ++ (g ++ v) ∧
      (G = [] ∧ u = [] ∨ G ≠ [] ∧
        ∃ u' p, u = u' ++ p ∧ r.Finds isWord u'.getLast? p (g ++ v)) ∧
      (G' = [] ∧ v = [] ∨ G' ≠ [] ∧
        ∃ p v', v = p ++ v' ∧ r.Finds isWord (u ++ g).getLast? p v') ∧
      r.NoneBegins isWord u g v := by
  obtain ⟨u, v, h_text, h_left, h_right, h_inside⟩ := (cut_split h_r text).place h_gaps
  simp only [Option.or_none] at h_left h_right h_inside
  refine ⟨u, v, h_text, h_left, ?_, h_inside⟩
  rcases h_right with h_end | ⟨h_G', p, v', h_v, -, h_p⟩
  · exact Or.inl h_end
  · exact Or.inr ⟨h_G', p, v', h_v, h_p⟩

/-- What a split returns is a piece of the text. -/
theorem isPiece_of_mem_split {P : Char → Prop} (h_r : r.Needs P) {g : List Char}
    (h_g : g ∈ r.split isWord text) : r.IsPiece isWord text g := by
  obtain ⟨G, G', h_gaps⟩ := List.append_of_mem h_g
  obtain ⟨u, v, h_text, h_left, h_right, h_inside⟩ := place_of_split h_r h_gaps
  exact ⟨u, v, h_text, h_left.imp And.right And.right, h_right.imp And.right And.right, h_inside⟩

/-- What repeated splits return is a stretch of the text. -/
theorem isStretch_of_mem_pieces {P : Char → Prop} {rs : List Regex} (h_rs : ∀ r ∈ rs, r.Needs P)
    {g : List Char} (h_g : g ∈ pieces isWord rs text) : IsStretch isWord rs text g := by
  induction rs generalizing text with
  | nil => exact List.mem_singleton.mp h_g
  | cons r rs ih =>
    obtain ⟨h_r, h_rest⟩ := List.forall_mem_cons.mp h_rs
    obtain ⟨g', h_g', h_mem⟩ := List.mem_flatMap.mp h_g
    exact ⟨g', isPiece_of_mem_split h_r h_g', ih h_rest h_mem⟩

/-- A stretch is no longer than the text. -/
theorem IsStretch.length_le {rs : List Regex} {g : List Char} (h : IsStretch isWord rs text g) :
    g.length ≤ text.length := by
  induction rs generalizing text with
  | nil => exact (congrArg List.length h).le
  | cons r rs ih =>
    obtain ⟨g', ⟨u, v, rfl, -⟩, h_rest⟩ := h
    have h_le := ih h_rest
    simp only [List.length_append]
    omega

/-! ### The length of a match -/

/-- A match has at least so many characters. -/
def leastLength : Regex → ℕ
  | empty => 0
  | boundary => 0
  | chars _ least _ => least
  | seq r s => leastLength r + leastLength s
  | optional _ => 0

/-- No match is shorter than the expression allows. -/
theorem Matches.leastLength_le (h : r.Matches isWord before m after) :
    r.leastLength ≤ m.length := by
  induction r generalizing before after m with
  | chars p least most => exact h.2.1
  | seq r s ih_r ih_s =>
    obtain ⟨m₁, m₂, rfl, h_r, h_s⟩ := h
    rw [List.length_append]
    exact Nat.add_le_add (ih_r h_r) (ih_s h_s)
  | empty => exact Nat.zero_le _
  | boundary => exact Nat.zero_le _
  | optional r ih => exact Nat.zero_le _

end Regex

end Framework
