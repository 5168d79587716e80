import DqScoring.Common.CanonicalRoundTrip
import DqScoring.Common.JsonPointer

/-!
# The identity of a value

`evaluate_json_array` decides with `_json_identity` whether two elements are equal. Values have
the same identity exactly if they are equal as JSON values (`identity_eq_iff`): no identity is
the start of another, so that the parts of an array or an object can be told apart, and the
keys of an object are sorted, so that their order is lost.

The array is written as canonical text and parsed again before its elements are compared. The
elements that come back are equal to those that were written, and the answer is about the
latter (`evaluateJsonArray_iff`), unless the text is refused for one of its numbers.
-/

open Framework

namespace DqScoring

/-! ### Codes -/

section Codes

variable {α τ : Type} {code : α → List τ} {R : α → α → Prop}

/-- Where every element can be read from what follows it, lists of one length can be. -/
theorem forall₂_of_flatMap {xs ys : List α} (h_length : xs.length = ys.length)
    (h_code : ∀ x ∈ xs, ∀ y ∈ ys, ∀ s t, code x ++ s = code y ++ t → R x y ∧ s = t) :
    ∀ s t, xs.flatMap code ++ s = ys.flatMap code ++ t → List.Forall₂ R xs ys ∧ s = t := by
  induction xs generalizing ys with
  | nil =>
    intro s t h
    obtain rfl := List.length_eq_zero_iff.mp h_length.symm
    exact ⟨.nil, h⟩
  | cons x xs ih =>
    intro s t h
    cases ys with
    | nil => cases h_length
    | cons y ys =>
      rw [List.flatMap_cons, List.flatMap_cons, List.append_assoc, List.append_assoc] at h
      obtain ⟨h_xy, h_rest⟩ := h_code x List.mem_cons_self y List.mem_cons_self _ _ h
      obtain ⟨h_xs, h_st⟩ := ih (Nat.succ.inj h_length)
        (fun x h_x y h_y => h_code x (List.mem_cons_of_mem _ h_x) y (List.mem_cons_of_mem _ h_y))
        s t h_rest
      exact ⟨.cons h_xy h_xs, h_st⟩

/-- Lists whose elements have one code, one by one, have one code. -/
theorem flatMap_of_forall₂ {xs ys : List α} (h : List.Forall₂ R xs ys) :
    (∀ x ∈ xs, ∀ y ∈ ys, R x y → code x = code y) → xs.flatMap code = ys.flatMap code := by
  induction h with
  | nil => exact fun _ => rfl
  | @cons x y xs ys h_xy _ ih =>
    intro h_code
    rw [List.flatMap_cons, List.flatMap_cons, h_code x List.mem_cons_self y List.mem_cons_self h_xy,
      ih fun x h_x y h_y => h_code x (List.mem_cons_of_mem _ h_x) y (List.mem_cons_of_mem _ h_y)]

end Codes

namespace Json

/-! ### Objects by their sorted entries -/

/-- The entries have one key and equal values. -/
def SameEntry (e e' : String × Json) : Prop := e.1 = e'.1 ∧ Same e.2 e'.2

theorem mem_sortedEntries {α : Type} {entries : List (String × α)} {e : String × α} :
    e ∈ sortedEntries entries ↔ e ∈ entries :=
  (List.mergeSort_perm ..).mem_iff

theorem length_sortedEntries {α : Type} (entries : List (String × α)) :
    (sortedEntries entries).length = entries.length :=
  (List.mergeSort_perm ..).length_eq

/-- Objects of the same keys have them in one order when they are sorted. -/
theorem keys_sortedEntries {entries entries' : List (String × Json)}
    (h_nodup : (entries.map (·.1)).Nodup) (h_nodup' : (entries'.map (·.1)).Nodup)
    (h_keys : ∀ k, k ∈ entries.map (·.1) ↔ k ∈ entries'.map (·.1)) :
    (sortedEntries entries).map (·.1) = (sortedEntries entries').map (·.1) := by
  have h_perm : ∀ l : List (String × Json), ((sortedEntries l).map (·.1)).Perm (l.map (·.1)) :=
    fun l => (List.mergeSort_perm ..).map _
  have h_sorted : ∀ l : List (String × Json),
      ((sortedEntries l).map (·.1)).Pairwise fun a b => decide (a ≤ b) = true :=
    fun l => List.pairwise_map.mpr (pairwise_sortedEntries l)
  refine List.Perm.eq_of_pairwise ?_ (h_sorted entries) (h_sorted entries') ?_
  · intro a b _ _ h_ab h_ba
    exact String.le_antisymm (of_decide_eq_true h_ab) (of_decide_eq_true h_ba)
  · have h_same := (List.perm_ext_iff_of_nodup h_nodup h_nodup').mpr h_keys
    exact (h_perm entries).trans (h_same.trans (h_perm entries').symm)

/-- Objects are equal exactly if their sorted entries are, one by one. -/
theorem same_obj_iff {entries entries' : List (String × Json)}
    (h_nodup : (entries.map (·.1)).Nodup) (h_nodup' : (entries'.map (·.1)).Nodup) :
    Same (.obj entries) (.obj entries') ↔
      List.Forall₂ SameEntry (sortedEntries entries) (sortedEntries entries') := by
  constructor
  · -- both sort the same keys, so the entries stand at the same places
    rintro ⟨_, ⟨⟩, h_keys, h_entries⟩
    rw [sameEntries_iff] at h_entries
    have h_eq := keys_sortedEntries h_nodup h_nodup' h_keys
    have h_length : (sortedEntries entries).length = (sortedEntries entries').length := by
      simpa using congrArg List.length h_eq
    refine List.forall₂_iff_get.mpr ⟨h_length, ?_⟩
    intro i h_i h_i'
    have h_key : ((sortedEntries entries).get ⟨i, h_i⟩).1 =
        ((sortedEntries entries').get ⟨i, h_i'⟩).1 := by
      have h_get := List.getElem_of_eq h_eq (by simpa using h_i)
      rw [List.getElem_map, List.getElem_map] at h_get
      exact h_get
    refine ⟨h_key, ?_⟩
    obtain ⟨w, h_w, h_same⟩ := h_entries _ (mem_sortedEntries.mp (List.get_mem _ ⟨i, h_i⟩))
    -- the key leads to one value
    have h_lookup := lookup_of_mem h_nodup' (mem_sortedEntries.mp (List.get_mem _ ⟨i, h_i'⟩))
    rw [h_key, h_lookup] at h_w
    rw [Option.some.inj h_w]
    exact h_same
  · -- entries at the same places have the same key
    intro h
    refine ⟨entries', rfl, ?_, ?_⟩
    · -- each key of one side is a key of the other
      intro k
      constructor
      · intro h_k
        obtain ⟨e, h_e, rfl⟩ := List.mem_map.mp h_k
        obtain ⟨e', h_e', h_key, -⟩ := exists_right_of_mem h (mem_sortedEntries.mpr h_e)
        rw [h_key]
        exact List.mem_map_of_mem (mem_sortedEntries.mp h_e')
      · intro h_k
        obtain ⟨e', h_e', rfl⟩ := List.mem_map.mp h_k
        obtain ⟨e, h_e, h_key, -⟩ := exists_left_of_mem h (mem_sortedEntries.mpr h_e')
        rw [← h_key]
        exact List.mem_map_of_mem (mem_sortedEntries.mp h_e)
    · -- each value is found under its key
      rw [sameEntries_iff]
      intro e h_e
      obtain ⟨e', h_e', h_key, h_same⟩ := exists_right_of_mem h (mem_sortedEntries.mpr h_e)
      refine ⟨e'.2, ?_, h_same⟩
      rw [h_key]
      exact lookup_of_mem h_nodup' (mem_sortedEntries.mp h_e')

/-! ### Identities -/

/-- The tokens of an array are its length and those of its items. -/
theorem identity_arr (items : List Json) :
    (arr items).identity = .arr items.length :: items.flatMap identity := by
  have h_map : ∀ l : List Json, identityItems l = l.map identity := by
    intro l
    induction l with
    | nil => rfl
    | cons v l ih => rw [identityItems, ih, List.map_cons]
  rw [identity, h_map, List.flatMap_def]

/-- The identity of an entry. -/
def entryIdentity (e : String × Json) : List IdentityToken := .key e.1 :: e.2.identity

/-- The tokens of an object are its length and those of its entries, sorted by key. -/
theorem identity_obj (entries : List (String × Json)) :
    (obj entries).identity = .obj entries.length :: (sortedEntries entries).flatMap entryIdentity
    := by
  have h_map : ∀ l : List (String × Json),
      identityEntries l = l.map fun e => (e.1, e.2.identity) := by
    intro l
    induction l with
    | nil => rfl
    | cons e l ih => rw [identityEntries, ih, List.map_cons]
  rw [identity]
  show IdentityToken.obj entries.length ::
    ((sortedEntries (identityEntries entries)).map _).flatten = _
  rw [h_map, sortedEntries_map, List.map_map, List.flatMap_def]
  rfl

/-- The keys of every object within the value are distinct. -/
def DistinctKeys (v : Json) : Prop := ∀ entries, Part (.obj entries) v → (entries.map (·.1)).Nodup

theorem DistinctKeys.item {items : List Json} (h : DistinctKeys (.arr items)) {v : Json}
    (h_v : v ∈ items) : DistinctKeys v :=
  fun entries h_part => h entries (.item h_v h_part)

theorem DistinctKeys.entry {entries : List (String × Json)} (h : DistinctKeys (.obj entries))
    {e : String × Json} (h_e : e ∈ entries) : DistinctKeys e.2 :=
  fun entries' h_part => h entries' (.value h_e h_part)

/-- Accepted values have distinct keys. -/
theorem Accepted.distinctKeys {limits : ParserLimits} {maxDepth : ℕ} {v : Json}
    (h : v.Accepted limits maxDepth) : DistinctKeys v :=
  fun _ h_part => h.sound _ h_part

/-- The identity of a number. -/
theorem identity_of_number? {v : Json} {x : ℚ} (h : v.number? = some x) :
    v.identity = [.number x] := by
  cases v with
  | int n =>
    obtain rfl := Option.some.inj h
    rfl
  | decimal d =>
    obtain rfl := Option.some.inj h
    rfl
  | _ => cases h

/-- Equal values have one identity. -/
theorem identity_of_same (v : Json) : ∀ {w : Json}, DistinctKeys v → DistinctKeys w → Same v w →
    v.identity = w.identity := by
  induction v using Json.inductionOn with
  | null =>
    rintro w - - rfl
    rfl
  | bool b =>
    rintro w - - rfl
    rfl
  | int n =>
    -- numbers of one value have one identity
    intro w _ _ h
    exact (identity_of_number? h).symm
  | decimal d =>
    intro w _ _ h
    exact (identity_of_number? h).symm
  | str s =>
    rintro w - - rfl
    rfl
  | arr items ih =>
    -- the length and the items agree
    rintro w h_v h_w ⟨items', rfl, h_items⟩
    rw [sameItems_iff] at h_items
    rw [identity_arr, identity_arr, h_items.length_eq]
    refine congrArg _ (flatMap_of_forall₂ h_items ?_)
    intro v h_mem w h_mem'
    exact ih v h_mem (h_v.item h_mem) (h_w.item h_mem')
  | obj entries ih =>
    -- sorted by key the entries agree one by one
    intro w h_v h_w h_same
    obtain ⟨entries', rfl, -⟩ := id h_same
    have h_entries := (same_obj_iff (h_v _ (.self _)) (h_w _ (.self _))).mp h_same
    have h_length : entries.length = entries'.length := by
      rw [← length_sortedEntries entries, ← length_sortedEntries entries', h_entries.length_eq]
    rw [identity_obj, identity_obj, h_length]
    refine congrArg _ (flatMap_of_forall₂ h_entries ?_)
    rintro e h_e e' h_e' ⟨h_key, h_value⟩
    have h_mem := mem_sortedEntries.mp h_e
    have h_mem' := mem_sortedEntries.mp h_e'
    unfold entryIdentity
    rw [h_key, ih e h_mem (h_v.entry h_mem) (h_w.entry h_mem') h_value]

/-- The first token of an identity. -/
def headToken : Json → IdentityToken
  | null => .null
  | bool b => .bool b
  | int n => .number n
  | decimal d => .number d.toRat
  | str s => .str s
  | arr items => .arr items.length
  | obj entries => .obj entries.length

/-- The other tokens, those of the parts. -/
def partTokens : Json → List IdentityToken
  | arr items => items.flatMap identity
  | obj entries => (sortedEntries entries).flatMap entryIdentity
  | _ => []

/-- The tokens of a value begin with its kind. -/
theorem identity_eq (v : Json) : v.identity = headToken v :: partTokens v := by
  cases v with
  | arr items => exact identity_arr items
  | obj entries => exact identity_obj entries
  | _ => rfl

/-- A scalar is known by its first token. -/
theorem same_of_headToken {v w : Json} (h_kind : ∀ n, headToken v ≠ .arr n ∧ headToken v ≠ .obj n)
    (h : headToken v = headToken w) : Same v w ∧ partTokens v = [] ∧ partTokens w = [] := by
  cases w with
  | arr items => exact absurd h (h_kind items.length).1
  | obj entries => exact absurd h (h_kind entries.length).2
  | _ => cases v <;> simp_all [headToken, partTokens, Same, number?]

/-- A value is read from its identity and whatever follows: no identity is the start of that of
another value. -/
theorem same_of_identity (v : Json) : ∀ {w : Json}, DistinctKeys v → DistinctKeys w →
    ∀ s t, v.identity ++ s = w.identity ++ t → Same v w ∧ s = t := by
  -- a scalar is its head token, which nothing follows
  have h_scalar : ∀ v w : Json, (∀ n, headToken v ≠ .arr n ∧ headToken v ≠ .obj n) →
      ∀ s t, v.identity ++ s = w.identity ++ t → Same v w ∧ s = t := by
    intro v w h_kind s t h
    rw [identity_eq v, identity_eq w, List.cons_append, List.cons_append] at h
    obtain ⟨h_head, h_tail⟩ := List.cons.inj h
    obtain ⟨h_same, h_part, h_part'⟩ := same_of_headToken h_kind h_head
    rw [h_part, h_part'] at h_tail
    exact ⟨h_same, h_tail⟩
  induction v using Json.inductionOn with
  | null => exact fun _ _ => h_scalar _ _ (by simp [headToken])
  | bool b => exact fun _ _ => h_scalar _ _ (by simp [headToken])
  | int n => exact fun _ _ => h_scalar _ _ (by simp [headToken])
  | decimal d => exact fun _ _ => h_scalar _ _ (by simp [headToken])
  | str s => exact fun _ _ => h_scalar _ _ (by simp [headToken])
  | arr items ih =>
    -- the head token gives the number of items
    intro w h_v h_w s t h
    rw [identity_eq w, identity_eq, List.cons_append, List.cons_append] at h
    obtain ⟨h_head, h_tail⟩ := List.cons.inj h
    cases w with
    | arr items' =>
      have h_length : items.length = items'.length := by
        simpa [headToken] using h_head
      -- the number of items is known, so that each ends where the next one starts
      obtain ⟨h_items, h_rest⟩ := forall₂_of_flatMap h_length
        (fun v h_mem w h_mem' => ih v h_mem (h_v.item h_mem) (h_w.item h_mem')) s t h_tail
      exact ⟨⟨items', rfl, sameItems_iff.mpr h_items⟩, h_rest⟩
    | _ => cases h_head
  | obj entries ih =>
    -- the head token gives the number of entries
    intro w h_v h_w s t h
    rw [identity_eq w, identity_eq, List.cons_append, List.cons_append] at h
    obtain ⟨h_head, h_tail⟩ := List.cons.inj h
    cases w with
    | obj entries' =>
      have h_length : (sortedEntries entries).length = (sortedEntries entries').length := by
        rw [length_sortedEntries, length_sortedEntries]
        simpa [headToken] using h_head
      -- an entry is its key and the identity of its value
      have h_entry : ∀ e ∈ sortedEntries entries, ∀ e' ∈ sortedEntries entries', ∀ s t,
          entryIdentity e ++ s = entryIdentity e' ++ t → SameEntry e e' ∧ s = t := by
        intro e h_e e' h_e' s t h_eq
        have h_mem := mem_sortedEntries.mp h_e
        have h_mem' := mem_sortedEntries.mp h_e'
        obtain ⟨h_key, h_value⟩ := List.cons.inj h_eq
        obtain ⟨h_same, h_st⟩ := ih e h_mem (h_v.entry h_mem) (h_w.entry h_mem') s t h_value
        exact ⟨⟨by simpa using h_key, h_same⟩, h_st⟩
      obtain ⟨h_entries, h_rest⟩ := forall₂_of_flatMap h_length h_entry s t h_tail
      exact ⟨(same_obj_iff (h_v _ (.self _)) (h_w _ (.self _))).mpr h_entries, h_rest⟩
    | _ => cases h_head

/-- Values have one identity exactly if they are equal. -/
theorem identity_eq_iff {v w : Json} (h_v : DistinctKeys v) (h_w : DistinctKeys w) :
    v.identity = w.identity ↔ Same v w := by
  constructor
  · intro h
    exact (same_of_identity v h_v h_w [] [] (by rw [h])).1
  · exact identity_of_same v h_v h_w

/-! ### Parts of accepted values -/

/-- A part of a part is a part. -/
theorem Part.trans {u v w : Json} (h : Part u v) (h' : Part v w) : Part u w := by
  induction h' with
  | self => exact h
  | item h_mem _ ih => exact .item h_mem ih
  | value h_mem _ ih => exact .value h_mem ih

/-- A part nests no deeper than the whole. -/
theorem NestsWithin.part {v w : Json} (h : Part v w) : ∀ {n : ℕ}, w.NestsWithin n →
    v.NestsWithin n := by
  induction h with
  | self => exact id
  | item h_mem _ ih =>
    intro n h_n
    cases n with
    | zero => exact h_n.elim
    | succ n => exact (ih (h_n _ h_mem)).mono (Nat.le_succ n)
  | value h_mem _ ih =>
    intro n h_n
    cases n with
    | zero => exact h_n.elim
    | succ n => exact (ih (h_n _ h_mem)).mono (Nat.le_succ n)

/-- The parts of an accepted value are accepted. -/
theorem Accepted.part {limits : ParserLimits} {maxDepth : ℕ} {v w : Json} (h : Part v w)
    (h_w : w.Accepted limits maxDepth) : v.Accepted limits maxDepth where
  sound := fun u h_u => h_w.sound u (h_u.trans h)
  recursion := h_w.recursion.part h
  depth := h_w.depth.part h
  maxDepth_pos := h_w.maxDepth_pos

end Json

/-- What a pointer designates is a part of the document. -/
theorem part_of_evaluate {index : String → Option ℕ} {v : Json} (tokens : List String) :
    ∀ {root : Json}, evaluate index tokens root = .value v → Json.Part v root := by
  induction tokens with
  | nil =>
    intro root h
    obtain rfl : root = v := by simpa [evaluate] using h
    exact .self root
  | cons token tokens ih =>
    intro root h
    cases root with
    | obj entries =>
      unfold evaluate at h
      cases h_lookup : entries.lookup token with
      | none =>
        rw [h_lookup] at h
        cases h
      | some u =>
        rw [h_lookup] at h
        obtain ⟨before, after, rfl, -⟩ := List.lookup_eq_some_iff.mp h_lookup
        exact .value (e := (token, u)) (by simp) (ih h)
    | arr items =>
      unfold evaluate at h
      cases h_item : (index token).bind (items[·]?) with
      | none =>
        rw [h_item] at h
        cases h
      | some u =>
        rw [h_item] at h
        obtain ⟨n, -, h_u⟩ := Option.bind_eq_some_iff.mp h_item
        exact .item (List.mem_of_getElem? h_u) (ih h)
    | _ => simp [evaluate] at h

/-! ### Arrays -/

/-- The array is too short, too long, or has two equal elements where it must not. -/
def JsonArrayParameters.Violated (params : JsonArrayParameters) (items : List Json) : Prop :=
  (∃ lo, params.minItems = some lo ∧ items.length < lo) ∨
  (∃ hi, params.maxItems = some hi ∧ hi < items.length) ∨
  (params.uniqueItems = true ∧ ∃ v w, [v, w].Sublist items ∧ v.Same w)

/-- The elements have distinct identities unless two of them are equal. -/
theorem nodup_identity_iff {items : List Json} (h : ∀ v ∈ items, v.DistinctKeys) :
    ¬(items.map Json.identity).Nodup ↔ ∃ v w, [v, w].Sublist items ∧ v.Same w := by
  unfold List.Nodup
  rw [List.pairwise_map, List.pairwise_iff_forall_sublist]
  constructor
  · intro h_not
    push Not at h_not
    obtain ⟨v, w, h_sub, h_eq⟩ := h_not
    have h_v := h v (h_sub.subset (by simp))
    have h_w := h w (h_sub.subset (by simp))
    exact ⟨v, w, h_sub, (Json.identity_eq_iff h_v h_w).mp h_eq⟩
  · rintro ⟨v, w, h_sub, h_same⟩ h_all
    have h_v := h v (h_sub.subset (by simp))
    have h_w := h w (h_sub.subset (by simp))
    exact h_all h_sub ((Json.identity_eq_iff h_v h_w).mpr h_same)

/-- The label of an array is decided by its own elements. -/
theorem arrayLabel_eq_failed_iff {params : JsonArrayParameters} {items : List Json}
    (h : ∀ v ∈ items, v.DistinctKeys) :
    arrayLabel params items = .failed ↔ params.Violated items := by
  have h_lo : (params.minItems.any fun lo => decide (items.length < lo)) = true ↔
      ∃ lo, params.minItems = some lo ∧ items.length < lo := by
    simp [Option.any_eq_true]
  have h_hi : (params.maxItems.any fun hi => decide (items.length > hi)) = true ↔
      ∃ hi, params.maxItems = some hi ∧ hi < items.length := by
    simp [Option.any_eq_true]
  unfold arrayLabel JsonArrayParameters.Violated
  rw [← h_lo, ← h_hi, ← nodup_identity_iff h]
  split_ifs with h_short h_long h_equal
  · exact iff_of_true rfl (.inl h_short)
  · exact iff_of_true rfl (.inr (.inl h_long))
  · simp only [Bool.and_eq_true, decide_eq_true_eq] at h_equal
    exact iff_of_true rfl (.inr (.inr h_equal))
  · simp only [Bool.and_eq_true, decide_eq_true_eq] at h_equal
    refine iff_of_false (fun h_label => by cases h_label) ?_
    rintro (h | h | h)
    · exact h_short h
    · exact h_long h
    · exact h_equal h

/-- There is no other label than failed and passed. -/
theorem arrayLabel_cases (params : JsonArrayParameters) (items : List Json) :
    arrayLabel params items = .failed ∨ arrayLabel params items = .passed := by
  unfold arrayLabel
  split_ifs <;> simp

/-- Arrays of equal elements have one label. -/
theorem arrayLabel_of_same {params : JsonArrayParameters} {items items' : List Json}
    (h : ∀ v ∈ items, v.DistinctKeys) (h' : ∀ v ∈ items', v.DistinctKeys)
    (h_same : List.Forall₂ Json.Same items items') :
    arrayLabel params items' = arrayLabel params items := by
  have h_map : items'.map Json.identity = items.map Json.identity := by
    induction h_same with
    | nil => rfl
    | cons h_v _ ih =>
      rw [List.forall_mem_cons] at h h'
      rw [List.map_cons, List.map_cons, Json.identity_of_same _ h.1 h'.1 h_v, ih h.2 h'.2]
  unfold arrayLabel
  rw [h_map, h_same.length_eq]

section Evaluation

variable {δ : Type} {python : Python δ} {limits : ParserLimits} {params : JsonArrayParameters}
  {text : String} {root : Json} {items : List Json}

/-- The source parses the canonical text of the array. -/
theorem evaluateJsonArray_of_array {parse : String → Except JsonFailure Json}
    {value : Option String}
    (h : extractJsonField python parse value params.path = .ok (fieldOf (.arr items))) :
    evaluateJsonArray python parse params value =
      match parse (Json.arr items).canonical with
      | .ok (.arr items) => .ok (arrayLabel params items)
      | .ok _ => .error (.typeError "object has no len()")
      | .error (.structured code) => .error (.valueError code)
      | .error (.raised e) => .error e := by
  unfold evaluateJsonArray
  rw [h]
  rfl

/-- The array that the pointer designates is labelled by its own elements, unless its canonical
text is refused. -/
theorem evaluateJsonArray_cases (h_root : parseStructuredJson limits text = .ok root)
    (h_items : evaluate (intIndex python) (pointerTokens params.path) root = .value (.arr items)) :
    ((Json.arr items).HasLongWhole limits ∧
      evaluateJsonArray python (fun t => parseStructuredJson limits t) params (some text) =
        .error (.valueError "INVALID_JSON")) ∨
    (¬(Json.arr items).HasLongWhole limits ∧
      evaluateJsonArray python (fun t => parseStructuredJson limits t) params (some text) =
        .ok (arrayLabel params items)) := by
  have h_field : walk python (pointerTokens params.path) root = fieldOf (.arr items) := by
    have h_answer : (evaluate (intIndex python) (pointerTokens params.path) root).AnsweredBy _ :=
      answeredBy_walk (pointerTokens params.path) root
    rw [h_items] at h_answer
    exact h_answer
  have h_extract : extractJsonField python (fun t => parseStructuredJson limits t) (some text)
      params.path = .ok (fieldOf (.arr items)) := by
    rw [← h_field]
    exact extractJsonField_eq h_root params.path_ok
  have h_accepted : (Json.arr items).Accepted limits 32 :=
    (accepted_of_parse h_root).part (part_of_evaluate _ h_items)
  rw [evaluateJsonArray_of_array h_extract]
  rcases parse_canonical h_accepted with ⟨h_long, h_error⟩ | ⟨h_short, w, h_w, h_same⟩
  · rw [h_error]
    exact .inl ⟨h_long, rfl⟩
  · obtain ⟨items', rfl, h_items'⟩ := h_same
    have h_accepted' := accepted_of_parse h_w
    rw [h_w]
    refine .inr ⟨h_short, congrArg Except.ok ?_⟩
    refine arrayLabel_of_same ?_ ?_ (Json.sameItems_iff.mp h_items')
    · exact fun v h_v => h_accepted.distinctKeys.item h_v
    · exact fun v h_v => h_accepted'.distinctKeys.item h_v

/-! ### The law -/

/-- **Arrays.** The label of the array that a pointer designates is failed where the array is too
short, too long or has two equal elements that it must not have, and passed otherwise, if and only
if no decimal of the array has exponent 0 and more digits than `int` takes. -/
theorem evaluateJsonArray_iff (h_root : parseStructuredJson limits text = .ok root)
    (h_items : evaluate (intIndex python) (pointerTokens params.path) root = .value (.arr items)) :
    ((evaluateJsonArray python (fun t => parseStructuredJson limits t) params (some text) =
        .ok .failed ↔ params.Violated items) ∧
      (evaluateJsonArray python (fun t => parseStructuredJson limits t) params (some text) =
        .ok .passed ↔ ¬params.Violated items)) ↔
      ¬(Json.arr items).HasLongWhole limits := by
  rcases evaluateJsonArray_cases h_root h_items with ⟨h_long, h_eval⟩ | ⟨h_short, h_eval⟩
  · rw [h_eval]
    refine iff_of_false ?_ (not_not.mpr h_long)
    rintro ⟨h_failed, h_passed⟩
    by_cases h_violated : params.Violated items
    · cases h_failed.mpr h_violated
    · cases h_passed.mpr h_violated
  · rw [h_eval]
    refine iff_of_true ?_ h_short
    have h_accepted : (Json.arr items).Accepted limits 32 :=
      (accepted_of_parse h_root).part (part_of_evaluate _ h_items)
    rw [← arrayLabel_eq_failed_iff fun v h_v => h_accepted.distinctKeys.item h_v]
    rcases arrayLabel_cases params items with h_label | h_label <;> simp [h_label]

end Evaluation

/-- The elements of the document must differ. -/
def uniqueParameters : JsonArrayParameters where
  column := "payload"
  path := ""
  uniqueItems := true
  column_ne := by decide
  path_ok := isJsonPointer_root
  given := rfl
  items_inOrder := rfl

/-- The elements of `[1,2]` differ. -/
theorem evaluateJsonArray_iff_pair :
    evaluateJsonArray asciiPython (fun t => parseStructuredJson ⟨4300, 1000⟩ t) uniqueParameters
      (some "[1,2]") = .ok .passed := by
  have h_short : ¬(Json.arr [.int 1, .int 2]).HasLongWhole ⟨4300, 1000⟩ := by
    rw [Json.hasLongWhole_arr]
    rintro ⟨v, h_v, d, h_part, -⟩
    rcases List.mem_pair.mp h_v with rfl | rfl <;> cases h_part
  have h_differ : ¬uniqueParameters.Violated [.int 1, .int 2] := by
    rintro (⟨lo, h_lo, -⟩ | ⟨hi, h_hi, -⟩ | ⟨-, v, w, h_sub, h_same⟩)
    · cases h_lo
    · cases h_hi
    · -- there is one pair
      have h_pair := h_sub.eq_of_length rfl
      obtain ⟨rfl, h_rest⟩ := List.cons.inj h_pair
      obtain ⟨rfl, -⟩ := List.cons.inj h_rest
      simp [Json.Same, Json.number?] at h_same
  exact ((evaluateJsonArray_iff parse_pairDocument rfl).mpr h_short).2.mpr h_differ

/-- The text `[11…1e0]` with 4301 ones. -/
def onesText : String := String.ofList ('[' :: ((onesLiteral 4300).text ++ [']']))

/-- The parser takes the sample text for an array of one long decimal. -/
theorem parse_onesText : ∃ d : DecimalNumber,
    parseStructuredJson ⟨4300, 1000⟩ onesText = .ok (.arr [.decimal d]) ∧
      d.exponent = 0 ∧ 4300 < d.digitCount := by
  obtain ⟨d, h_decode, h_exponent, h_digits⟩ :=
    decode_ones ⟨4300, 1000⟩ (show 4300 < maxPrec by simp [maxPrec])
  have h_text : SpellsText onesText (.array [.number (onesLiteral 4300)]) :=
    ⟨[], _, [], by simp [onesText], List.forall_mem_nil _, List.forall_mem_nil _,
      .array (.last (Spells.number (onesLiteral 4300)).padded)⟩
  refine ⟨d, ?_, h_exponent, h_digits⟩
  rw [parse_of_spellsText _ _ h_text, treeValue, JsonTree.decode, decodeItems, h_decode]
  rfl

/-- A decimal that is accepted in the document is refused in the canonical text of the array. -/
theorem evaluateJsonArray_longWhole : ∃ items,
    parseStructuredJson ⟨4300, 1000⟩ onesText = .ok (.arr items) ∧
    ¬uniqueParameters.Violated items ∧
    evaluateJsonArray asciiPython (fun t => parseStructuredJson ⟨4300, 1000⟩ t) uniqueParameters
      (some onesText) ≠ .ok .passed := by
  obtain ⟨d, h_parse, h_exponent, h_digits⟩ := parse_onesText
  refine ⟨_, h_parse, ?_, ?_⟩
  · rintro (⟨lo, h_lo, -⟩ | ⟨hi, h_hi, -⟩ | ⟨-, v, w, h_sub, -⟩)
    · cases h_lo
    · cases h_hi
    · exact absurd h_sub.length_le (by simp)
  · have h_long : (Json.arr [.decimal d]).HasLongWhole ⟨4300, 1000⟩ := by
      refine ⟨d, .item (List.mem_singleton.mpr rfl) (.self _), h_exponent, ?_⟩
      rintro (h_none | h_le)
      · cases h_none
      · exact absurd h_le (not_le.mpr h_digits)
    have h_items : evaluate (intIndex asciiPython) (pointerTokens uniqueParameters.path)
        (.arr [.decimal d]) = .value (.arr [.decimal d]) := rfl
    rcases evaluateJsonArray_cases h_parse h_items with ⟨-, h_eval⟩ | ⟨h_short, -⟩
    · rw [h_eval]
      intro h_ok
      cases h_ok
    · exact absurd h_long h_short

end DqScoring
