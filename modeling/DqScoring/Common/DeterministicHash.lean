import DqScoring.Common.CanonicalRoundTrip
import Mathlib.Data.String.Basic

/-!
# Deterministic hashes

`common/hash_utils.py`: the hash of a payload is that of its JSON text with sorted keys,
compact separators and no escapes beyond those that JSON needs. The payload is what
`model_dump(mode="json")` gives.

A float is the literal that `repr` prints for it, which reads back as the same float.
`sorted` is the payload with the keys of its dictionaries in order. It stands for the payload
as a value, since a dictionary has no order, and `dumps_eq_iff` says that the text determines
it: two payloads have one text exactly if they are equal as values.
-/

namespace DqScoring

open Framework

/-- A float as `repr` prints it. -/
abbrev FloatLiteral := { n : NumberLiteral // n.isInteger = false }

/-- A value of `model_dump(mode="json")`. -/
inductive DumpValue where
  | null
  | bool (b : Bool)
  | int (n : ℤ)
  | float (x : FloatLiteral)
  | str (s : String)
  | list (items : List DumpValue)
  | dict (entries : List (String × DumpValue))

namespace DumpValue

/-- Induction over a value: a container is known by what it contains. -/
theorem inductionOn {P : DumpValue → Prop} (v : DumpValue) (null : P .null)
    (bool : ∀ b, P (.bool b)) (int : ∀ n, P (.int n)) (float : ∀ x, P (.float x))
    (str : ∀ s, P (.str s)) (list : ∀ items, (∀ v ∈ items, P v) → P (.list items))
    (dict : ∀ entries : List (String × DumpValue), (∀ e ∈ entries, P e.2) → P (.dict entries)) :
    P v :=
  @DumpValue.rec P (fun items => ∀ v ∈ items, P v) (fun entries => ∀ e ∈ entries, P e.2)
    (fun e => P e.2) null bool int float str list dict
    (List.forall_mem_nil _) (fun _ _ h_v h_items => List.forall_mem_cons.mpr ⟨h_v, h_items⟩)
    (List.forall_mem_nil _) (fun _ _ h_e h_entries => List.forall_mem_cons.mpr ⟨h_e, h_entries⟩)
    (fun _ _ h_v => h_v) v

mutual

/-- `json.dumps(…, sort_keys=True, separators=(",", ":"), ensure_ascii=False)`. -/
def dumps : DumpValue → String
  | null => "null"
  | bool b => if b then "true" else "false"
  | int n => toString n
  | float x => String.ofList x.val.text
  | str s => Json.quote s
  | list items => "[" ++ ",".intercalate (dumpsItems items) ++ "]"
  -- the braces are written as escapes
  | dict entries =>
    "\x7b" ++ ",".intercalate ((Json.sortedEntries (dumpsEntries entries)).map fun e =>
      Json.quote e.1 ++ ":" ++ e.2) ++ "\x7d"

/-- The texts of the items of a list. -/
def dumpsItems : List DumpValue → List String
  | [] => []
  | v :: items => dumps v :: dumpsItems items

/-- The texts of the values of a dictionary, by key. -/
def dumpsEntries : List (String × DumpValue) → List (String × String)
  | [] => []
  | (k, v) :: entries => (k, dumps v) :: dumpsEntries entries

end

mutual

/-- The value with the keys of its dictionaries in order. -/
def sorted : DumpValue → DumpValue
  | null => null
  | bool b => bool b
  | int n => int n
  | float x => float x
  | str s => str s
  | list items => list (sortedItems items)
  | dict entries => dict (Json.sortedEntries (sortedValues entries))

/-- The items, each with its keys in order. -/
def sortedItems : List DumpValue → List DumpValue
  | [] => []
  | v :: items => sorted v :: sortedItems items

/-- The entries, each with the keys of its value in order. -/
def sortedValues : List (String × DumpValue) → List (String × DumpValue)
  | [] => []
  | (k, v) :: entries => (k, sorted v) :: sortedValues entries

end

/-- Items are written one by one. -/
theorem dumpsItems_eq_map (items : List DumpValue) : dumpsItems items = items.map dumps := by
  induction items with
  | nil => rfl
  | cons v items ih => rw [dumpsItems, ih, List.map_cons]

/-- Entries are written one by one. -/
theorem dumpsEntries_eq_map (entries : List (String × DumpValue)) :
    dumpsEntries entries = entries.map fun e => (e.1, e.2.dumps) := by
  induction entries with
  | nil => rfl
  | cons e entries ih => rw [dumpsEntries, ih, List.map_cons]

/-- Items are sorted inside, not among each other. -/
theorem sortedItems_eq_map (items : List DumpValue) : sortedItems items = items.map sorted := by
  induction items with
  | nil => rfl
  | cons v items ih => rw [sortedItems, ih, List.map_cons]

/-- Values are sorted inside. -/
theorem sortedValues_eq_map (entries : List (String × DumpValue)) :
    sortedValues entries = entries.map fun e => (e.1, e.2.sorted) := by
  induction entries with
  | nil => rfl
  | cons e entries ih => rw [sortedValues, ih, List.map_cons]

theorem sorted_list (items : List DumpValue) : (list items).sorted = list (items.map sorted) := by
  rw [sorted, sortedItems_eq_map]

theorem sorted_dict (entries : List (String × DumpValue)) : (dict entries).sorted =
    dict ((Json.sortedEntries entries).map fun e => (e.1, e.2.sorted)) := by
  rw [sorted, sortedValues_eq_map, Json.sortedEntries_map]

/-- A dictionary is written in the order of its keys. -/
theorem dumps_dict (entries : List (String × DumpValue)) : (dict entries).dumps =
    "\x7b" ++ ",".intercalate ((Json.sortedEntries entries).map fun e =>
      Json.quote e.1 ++ ":" ++ e.2.dumps) ++ "\x7d" := by
  rw [dumps, dumpsEntries_eq_map, Json.sortedEntries_map, List.map_map]
  rfl

/-! ### The text depends on the value only -/

/-- Sorting the keys in advance changes no dump. -/
theorem dumps_sorted (v : DumpValue) : v.sorted.dumps = v.dumps := by
  induction v using DumpValue.inductionOn with
  | list items ih =>
    have h_items : (items.map sorted).map dumps = items.map dumps := by
      rw [List.map_map]
      exact List.map_congr_left ih
    rw [sorted_list, dumps, dumpsItems_eq_map, h_items, dumps, dumpsItems_eq_map]
  | dict entries ih =>
    have h_perm : (Json.sortedEntries entries).Perm entries := List.mergeSort_perm ..
    have h_entries : ((Json.sortedEntries entries).map fun e => (e.1, e.2.sorted)).map
        (fun e => Json.quote e.1 ++ ":" ++ e.2.dumps) =
          (Json.sortedEntries entries).map fun e => Json.quote e.1 ++ ":" ++ e.2.dumps := by
      rw [List.map_map]
      refine List.map_congr_left fun e h_e => ?_
      show Json.quote e.1 ++ ":" ++ e.2.sorted.dumps = _
      rw [ih e (h_perm.mem_iff.mp h_e)]
    rw [sorted_dict, dumps_dict, Json.sortedEntries_map, Json.sortedEntries_sortedEntries,
      h_entries, dumps_dict]
  | _ => rfl

/-! ### The text determines the value -/

/-- Read the text of a payload back. -/
def dumpHooks : JsonHooks DumpValue Unit where
  null := .null
  bool := .bool
  constant := fun _ => .error ()
  number := fun n =>
    -- a number without fraction and exponent is an `int`
    if h : n.isInteger = false then .ok (.float ⟨n, h⟩)
    else .ok (.int ((if n.negative then -1 else 1) * (digitsValue n.integral.digits : ℤ)))
  string := fun points => .str (String.ofList (points.map Char.ofNat))
  array := .list
  object := fun pairs =>
    .ok (.dict (pairs.map fun pair => (String.ofList (pair.1.map Char.ofNat), pair.2)))
  malformed := ()
  tooDeep := ()

/-- A text is given back by its code points. -/
theorem ofNat_toNat_text (s : String) :
    String.ofList ((s.toList.map Char.toNat).map Char.ofNat) = s := by
  rw [List.map_map]
  simp [Function.comp_def]

/-- The text spells a document that is read as the value. -/
structure ReadBack (v : DumpValue) (t : JsonTree) (height : ℕ) : Prop where
  spells : Spells v.dumps.toList t
  decodes : ∀ depth, height ≤ depth → t.decode dumpHooks depth = .ok v.sorted

/-- A dumped integer is read back. -/
theorem readBack_int (n : ℤ) : ∃ t, ReadBack (.int n) t 0 := by
  obtain ⟨lit, h_text, h_integer, h_digits, h_negative⟩ := exists_intLiteral n
  have h_value : (if lit.negative then -1 else 1) * (digitsValue lit.integral.digits : ℤ) = n := by
    rw [h_digits, digitsValue_digitsOf, h_negative]
    by_cases h_n : n < 0
    · simp only [h_n, decide_true, if_true]
      omega
    · simp only [h_n, decide_false, Bool.false_eq_true, if_false]
      omega
  refine ⟨.number lit, ?_, fun depth _ => ?_⟩
  · rw [dumps, ← h_text]
    exact .number lit
  · rw [JsonTree.decode]
    show (if h : lit.isInteger = false then _ else _) = _
    rw [dif_neg (by simp [h_integer]), h_value]
    rfl

/-- A height that is enough for every item of a list. -/
theorem exists_height {α β : Type} {R : α → β → ℕ → Prop}
    (h_mono : ∀ a b n m, n ≤ m → R a b n → R a b m) {l : List α} (h : ∀ a ∈ l, ∃ b n, R a b n) :
    ∃ l' n, List.Forall₂ (fun a b => R a b n) l l' := by
  induction l with
  | nil => exact ⟨[], 0, .nil⟩
  | cons a l ih =>
    obtain ⟨b, n, h_b⟩ := h a List.mem_cons_self
    obtain ⟨l', m, h_l'⟩ := ih fun x h_x => h x (List.mem_cons_of_mem a h_x)
    refine ⟨b :: l', max n m, .cons (h_mono _ _ _ _ (le_max_left n m) h_b) ?_⟩
    exact h_l'.imp fun _ _ => h_mono _ _ _ _ (le_max_right n m)

/-- A dumped list is read back when its items are. -/
theorem readBack_list {items : List DumpValue} (h : ∀ v ∈ items, ∃ t n, ReadBack v t n) :
    ∃ t n, ReadBack (.list items) t n := by
  obtain ⟨ts, n, h_ts⟩ := exists_height
    (fun _ _ _ _ h_le h_read => ⟨h_read.spells, fun d h_d => h_read.decodes d (h_le.trans h_d)⟩) h
  refine ⟨.array ts, n + 1, ?_, fun depth h_depth => ?_⟩
  · have h_texts : List.Forall₂ (fun text t => Spells text.toList t) (items.map dumps) ts :=
      List.forall₂_map_left_iff.mpr (h_ts.imp fun _ _ h_t => h_t.spells)
    rw [dumps, dumpsItems_eq_map]
    simp only [String.toList_append]
    cases items with
    | nil =>
      cases h_texts
      exact .emptyArray blank_nil
    | cons v items => exact .array (spellsItems_intercalate h_texts (by simp))
  · obtain ⟨d, rfl⟩ : ∃ d, depth = d + 1 := ⟨depth - 1, by omega⟩
    have h_items : ts.mapM (fun t => t.decode dumpHooks d) = .ok (items.map sorted) := by
      rw [mapM_eq_ok_iff, List.forall₂_map_right_iff]
      exact (h_ts.imp fun v t h_t => h_t.decodes d (by omega)).flip
    rw [JsonTree.decode, decodeItems_eq_mapM, h_items, sorted_list]
    rfl

/-- A dumped dictionary is read back when its values are. -/
theorem readBack_dict {entries : List (String × DumpValue)}
    (h : ∀ e ∈ entries, ∃ t n, ReadBack e.2 t n) : ∃ t n, ReadBack (.dict entries) t n := by
  -- the dump lists the entries by key
  have h_perm : (Json.sortedEntries entries).Perm entries := List.mergeSort_perm ..
  -- keys and values are read back one entry at a time
  have h_each : ∀ e ∈ Json.sortedEntries entries, ∃ (t : List StringPart × JsonTree) (n : ℕ),
      (stringText t.1 = (Json.quote e.1).toList ∧ codePoints t.1 = e.1.toList.map Char.toNat) ∧
        ReadBack e.2 t.2 n := by
    intro e h_e
    obtain ⟨key, h_text, h_points⟩ := exists_parts e.1
    obtain ⟨t, n, h_t⟩ := h e (h_perm.mem_iff.mp h_e)
    exact ⟨(key, t), n, ⟨h_text, h_points⟩, h_t⟩
  -- the deepest of the values decides how much depth the dictionary needs
  obtain ⟨ts, n, h_ts⟩ := exists_height (fun _ _ _ _ h_le h_read =>
    ⟨h_read.1, h_read.2.spells, fun d h_d => h_read.2.decodes d (h_le.trans h_d)⟩) h_each
  refine ⟨.object ts, n + 1, ?_, fun depth h_depth => ?_⟩
  · -- the spellings of the entries make up the text of the dictionary
    have h_texts : List.Forall₂ (fun (e : String × String) (t : List StringPart × JsonTree) =>
        stringText t.1 = (Json.quote e.1).toList ∧ Spells e.2.toList t.2)
        ((Json.sortedEntries entries).map fun e => (e.1, e.2.dumps)) ts :=
      List.forall₂_map_left_iff.mpr (h_ts.imp fun _ _ h_t => ⟨h_t.1.1, h_t.2.spells⟩)
    rw [dumps_dict]
    simp only [String.toList_append]
    cases h_sorted : Json.sortedEntries entries with
    | nil =>
      rw [h_sorted] at h_texts
      cases h_texts
      exact .emptyObject blank_nil
    | cons e es =>
      rw [h_sorted] at h_texts
      have h_entries := spellsEntries_intercalate h_texts (List.cons_ne_nil _ _)
      rw [List.map_map] at h_entries
      exact .object h_entries
  · -- one level is spent on the dictionary
    obtain ⟨d, rfl⟩ : ∃ d, depth = d + 1 := ⟨depth - 1, by omega⟩
    have h_entries : ts.mapM (fun t => (t.2.decode dumpHooks d).map fun v => (codePoints t.1, v)) =
        .ok ((Json.sortedEntries entries).map fun e =>
          (e.1.toList.map Char.toNat, e.2.sorted)) := by
      rw [mapM_eq_ok_iff, List.forall₂_map_right_iff]
      refine (h_ts.imp fun e t h_t => ?_).flip
      show (t.2.decode dumpHooks d).map (fun v => (codePoints t.1, v)) = _
      rw [h_t.2.decodes d (by omega), h_t.1.2]
      rfl
    have h_texts : ((Json.sortedEntries entries).map fun e =>
        (e.1.toList.map Char.toNat, e.2.sorted)).map
          (fun pair => (String.ofList (pair.1.map Char.ofNat), pair.2)) =
        (Json.sortedEntries entries).map fun e => (e.1, e.2.sorted) := by
      rw [List.map_map]
      refine List.map_congr_left fun e _ => ?_
      show (String.ofList ((e.1.toList.map Char.toNat).map Char.ofNat), e.2.sorted) = _
      rw [ofNat_toNat_text]
    rw [JsonTree.decode, decodeEntries_eq_mapM, h_entries]
    show Except.ok (DumpValue.dict _) = _
    rw [h_texts, sorted_dict]

/-- Every dump is read back, so values with equal dumps are equal up to the order of keys.
-/
theorem exists_readBack (v : DumpValue) : ∃ t n, ReadBack v t n := by
  induction v using DumpValue.inductionOn with
  | null =>
    have h_text : null.dumps.toList = wordText .null := rfl
    refine ⟨.null, 0, ?_, fun depth _ => by rw [JsonTree.decode]; rfl⟩
    rw [h_text]
    exact .word (by simp [words])
  | bool b =>
    have h_text : (bool b).dumps.toList = wordText (.bool b) := by cases b <;> rfl
    refine ⟨.bool b, 0, ?_, fun depth _ => by rw [JsonTree.decode]; rfl⟩
    rw [h_text]
    exact .word (by cases b <;> simp [words])
  | int n =>
    obtain ⟨t, h_t⟩ := readBack_int n
    exact ⟨t, 0, h_t⟩
  | float x =>
    refine ⟨.number x.val, 0, ?_, fun depth _ => ?_⟩
    · rw [dumps, String.toList_ofList]
      exact .number x.val
    · rw [JsonTree.decode]
      exact dif_pos x.property
  | str s =>
    obtain ⟨parts, h_text, h_points⟩ := exists_parts s
    refine ⟨.string parts, 0, ?_, fun depth _ => ?_⟩
    · rw [dumps, ← h_text]
      exact .string parts
    · rw [JsonTree.decode, h_points]
      show Except.ok (DumpValue.str _) = _
      rw [ofNat_toNat_text]
      rfl
  | list items ih => exact readBack_list ih
  | dict entries ih => exact readBack_dict ih

/-- **Faithful text.** Payloads have one text exactly if they are equal as values. -/
theorem dumps_eq_iff {v w : DumpValue} : v.dumps = w.dumps ↔ v.sorted = w.sorted := by
  constructor
  · intro h
    obtain ⟨t, n, h_t⟩ := exists_readBack v
    obtain ⟨u, m, h_u⟩ := exists_readBack w
    -- one scan reads both documents
    have h_v := scanValue_of_spells dumpHooks h_t.spells (2 * v.dumps.toList.length) (max n m) []
      le_rfl delimited_nil
    have h_w := scanValue_of_spells dumpHooks h_u.spells (2 * w.dumps.toList.length) (max n m) []
      le_rfl delimited_nil
    rw [h_t.decodes _ (le_max_left n m), h] at h_v
    rw [h_u.decodes _ (le_max_right n m), h_v] at h_w
    exact (Prod.mk.inj (Except.ok.inj h_w)).1
  · intro h
    rw [← dumps_sorted v, h, dumps_sorted]

end DumpValue

/-- The bytes that are hashed. -/
def hashedBytes (payload : DumpValue) : ByteArray := payload.dumps.toUTF8

/-- `compute_deterministic_hash`, where `sha256` is the hexadecimal digest of some bytes. -/
def computeDeterministicHash (sha256 : ByteArray → String) (payload : DumpValue) : String :=
  sha256 (hashedBytes payload)

/-- Equal bytes are those of equal values. -/
theorem hashedBytes_eq_iff {v w : DumpValue} :
    hashedBytes v = hashedBytes w ↔ v.sorted = w.sorted := by
  rw [← DumpValue.dumps_eq_iff, hashedBytes, hashedBytes, String.toUTF8_eq_toByteArray,
    String.toUTF8_eq_toByteArray, String.toByteArray_inj]

end DqScoring
