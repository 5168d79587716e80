import Mathlib.Data.List.DropRight

/-!
# Lists written as one text

Items joined with a separator, and read back by splitting at the separator, trimming each
piece and dropping the empty ones. `splitTrimmed_join_iff` says which lists survive.
-/

namespace Framework

variable {β : Type} {p : β → Bool}

/-- The text without the leading and trailing characters that satisfy the predicate. -/
def trim (p : β → Bool) (l : List β) : List β := (l.dropWhile p).rdropWhile p

theorem trim_subset (l : List β) : trim p l ⊆ l :=
  List.Subset.trans (List.rdropWhile_prefix p _).subset (List.dropWhile_subset p)

/-- A trimmed text does not start with a character that is trimmed. -/
theorem dropWhile_trim (l : List β) : (trim p l).dropWhile p = trim p l := by
  rw [List.dropWhile_eq_self_iff]
  intro h_length h_first
  have h_begins : trim p l <+: l.dropWhile p := List.rdropWhile_prefix p _
  have h_length' : 0 < (l.dropWhile p).length := h_length.trans_le h_begins.length_le
  -- its first character is the first one that was not dropped
  rw [h_begins.getElem h_length] at h_first
  exact List.dropWhile_get_zero_not p l h_length' h_first

/-- Trimming twice is trimming once. -/
theorem trim_trim (l : List β) : trim p (trim p l) = trim p l := by
  show ((trim p l).dropWhile p).rdropWhile p = trim p l
  rw [dropWhile_trim, trim, List.rdropWhile_idempotent]

/-- Padding in front is trimmed. -/
theorem trim_append_of_forall {pad : List β} (h : ∀ b ∈ pad, p b = true) (l : List β) :
    trim p (pad ++ l) = trim p l := by
  rw [trim, List.dropWhile_append_of_pos h, trim]

variable [DecidableEq β] {sep : β}

/-- The items of a text. -/
def splitTrimmed (p : β → Bool) (sep : β) (l : List β) : List (List β) :=
  ((l.splitOn sep).map (trim p)).filter (· ≠ [])

/-- An item that can be told from its text: it is not empty, does not start or end with what
is trimmed, and does not contain the separator. -/
structure IsItem (p : β → Bool) (sep : β) (item : List β) : Prop where
  ne_nil : item ≠ []
  trimmed : trim p item = item
  separator : sep ∉ item

/-- No piece has the separator. -/
theorem not_mem_of_mem_splitOn {l piece : List β} (h : piece ∈ l.splitOn sep) : sep ∉ piece := by
  induction l generalizing piece with
  | nil =>
    obtain rfl := List.mem_singleton.mp h
    exact List.not_mem_nil
  | cons b l ih =>
    rw [List.splitOn_cons_eq_if_modifyHead] at h
    split at h
    case isTrue =>
      rcases List.mem_cons.mp h with rfl | h
      · exact List.not_mem_nil
      · exact ih h
    case isFalse h_ne =>
      obtain ⟨first, rest, h_split⟩ := List.exists_cons_of_ne_nil (List.splitOn_ne_nil sep l)
      rw [h_split, List.modifyHead_cons] at h
      rcases List.mem_cons.mp h with rfl | h
      · intro h_mem
        rcases List.mem_cons.mp h_mem with rfl | h_mem
        · exact h_ne (beq_self_eq_true _)
        · exact ih (h_split ▸ List.mem_cons_self) h_mem
      · exact ih (h_split ▸ List.mem_cons_of_mem first h)

/-- The pieces of a trimmed split are items. -/
theorem isItem_of_mem_splitTrimmed {l item : List β} (h : item ∈ splitTrimmed p sep l) :
    IsItem p sep item := by
  obtain ⟨h_mem, h_ne⟩ := List.mem_filter.mp h
  obtain ⟨piece, h_piece, rfl⟩ := List.mem_map.mp h_mem
  exact {
    ne_nil := of_decide_eq_true h_ne
    trimmed := trim_trim piece
    separator := fun h_sep => not_mem_of_mem_splitOn h_piece (trim_subset piece h_sep) }

omit [DecidableEq β] in
/-- A separator with padding is the separator between padded items. -/
theorem intercalate_padded (pad : List β) (item : List β) (items : List (List β)) :
    (sep :: pad).intercalate (item :: items) =
      [sep].intercalate (item :: items.map (pad ++ ·)) := by
  induction items generalizing item with
  | nil => rfl
  | cons next items ih =>
    rw [List.map_cons, List.intercalate_cons_cons, List.intercalate_cons_cons, ih]
    -- the padding before an item does not depend on what follows it
    cases items with
    | nil => simp
    | cons other items => simp [List.intercalate_cons_cons]

/-- **Which lists survive being joined and split**: those of items. -/
theorem splitTrimmed_join_iff {pad : List β} (h_pad : ∀ b ∈ pad, p b = true) (h_sep : sep ∉ pad)
    {items : List (List β)} :
    splitTrimmed p sep ((sep :: pad).intercalate items) = items ↔
      ∀ item ∈ items, IsItem p sep item := by
  constructor
  · intro h item h_item
    exact isItem_of_mem_splitTrimmed (h ▸ h_item)
  · intro h
    cases items with
    | nil => rfl
    | cons item items =>
      have h_pieces : ∀ piece ∈ item :: items.map (pad ++ ·), sep ∉ piece := by
        intro piece h_piece
        rcases List.mem_cons.mp h_piece with rfl | h_piece
        · exact (h _ List.mem_cons_self).separator
        · obtain ⟨other, h_other, rfl⟩ := List.mem_map.mp h_piece
          rw [List.mem_append, not_or]
          exact ⟨h_sep, (h other (List.mem_cons_of_mem item h_other)).separator⟩
      have h_trimmed : (item :: items.map (pad ++ ·)).map (trim p) = item :: items := by
        rw [List.map_cons, List.map_map, (h item List.mem_cons_self).trimmed]
        congr 1
        refine (List.map_congr_left fun other h_other => ?_).trans (List.map_id items)
        show trim p (pad ++ other) = other
        rw [trim_append_of_forall h_pad, (h other (List.mem_cons_of_mem item h_other)).trimmed]
      rw [splitTrimmed, intercalate_padded, List.splitOn_intercalate sep h_pieces
        (List.cons_ne_nil _ _), h_trimmed, List.filter_eq_self]
      exact fun other h_other => decide_eq_true (h other h_other).ne_nil

end Framework
