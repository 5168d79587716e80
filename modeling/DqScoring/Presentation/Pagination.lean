import DqScoring.Framework.LikePattern
import DqScoring.Framework.ListOrder
import DqScoring.Framework.Slices
import DqScoring.Framework.StringReplace
import DqScoring.Workspace.Tables
import Mathlib.Data.Prod.Lex
import Mathlib.Order.OrderDual

/-!
# Pages of a collection

`presentation/api/pagination.py`, with the list of assets as the collection: the search text becomes
an escaped `ILIKE` pattern, and a page is the matching rows in their order, from an offset on.

The count and the page are two statements, and each sees what is committed when it starts, so that
the two of one request may see different rows. Rows are added to a collection and never removed from
it. A client that goes on until a page is not full has then seen every row that was there at first
(`assets_walk`); one that goes by the total has, if nothing was added between the two statements of
its last request.
-/

namespace DqScoring

open Framework

/-! ### Search -/

/-- The case folding of `ILIKE`, a character at a time: it leaves the characters with a meaning
alone, and makes none. -/
structure CaseFolding where
  fold : Char → Char
  special : ∀ c, Like.isSpecial c = true → fold c = c
  plain : ∀ c, Like.isSpecial c = false → Like.isSpecial (fold c) = false

/-- `contains` -/
def contains (q : String) : String :=
  "%" ++ (((q.replace "\\" "\\\\").replace "%" "\\%").replace "_" "\\_") ++ "%"

namespace CaseFolding

variable (k : CaseFolding)

/-- `text ILIKE pattern` -/
def ilike (text pattern : String) : Bool :=
  (Like.tokens (pattern.toList.map k.fold)).any fun items =>
    Like.isMatch items (text.toList.map k.fold)

end CaseFolding

/-- The pattern of a search is the escaped text between two wildcards. -/
theorem toList_contains (q : String) :
    (contains q).toList = '%' :: (Like.escape q.toList ++ ['%']) := by
  have h_backslash : Replaced ['\\'] ['\\', '\\'] q.toList (q.replace "\\" "\\\\").toList :=
    replaced_replace (show "\\" ≠ "" by decide) "\\\\" q
  have h_percent : Replaced ['%'] ['\\', '%'] (q.replace "\\" "\\\\").toList
      ((q.replace "\\" "\\\\").replace "%" "\\%").toList :=
    replaced_replace (show "%" ≠ "" by decide) "\\%" _
  have h_underscore : Replaced ['_'] ['\\', '_'] ((q.replace "\\" "\\\\").replace "%" "\\%").toList
      (((q.replace "\\" "\\\\").replace "%" "\\%").replace "_" "\\_").toList :=
    replaced_replace (show "_" ≠ "" by decide) "\\_" _
  -- what the first replacement adds is not touched by the others
  have h_escape : (((q.replace "\\" "\\\\").replace "%" "\\%").replace "_" "\\_").toList =
      Like.escape q.toList := by
    rw [h_underscore.eq_flatMap, h_percent.eq_flatMap, h_backslash.eq_flatMap,
      List.flatMap_assoc, List.flatMap_assoc, Like.escape]
    refine List.flatMap_congr fun c _ => ?_
    by_cases h : c = '\\'
    · subst h
      decide
    by_cases h' : c = '%'
    · subst h'
      decide
    by_cases h'' : c = '_'
    · subst h''
      decide
    · simp [Like.isSpecial, h, h', h'']
  rw [contains, String.toList_append, String.toList_append, h_escape]
  rfl

/-- **Search.** A text matches exactly if it contains the search text, up to case, whatever
characters the search text has. -/
theorem ilike_contains_iff (k : CaseFolding) (text q : String) :
    k.ilike text (contains q) = true ↔ q.toList.map k.fold <:+: text.toList.map k.fold := by
  have h_fold : (Like.escape q.toList).map k.fold = Like.escape (q.toList.map k.fold) := by
    rw [Like.escape, Like.escape, List.map_flatMap, List.flatMap_map]
    refine List.flatMap_congr fun c _ => ?_
    by_cases h : Like.isSpecial c = true
    · rw [if_pos h, k.special c h, if_pos h, List.map_cons, List.map_singleton, k.special c h,
        k.special '\\' rfl]
    · rw [Bool.not_eq_true] at h
      rw [if_neg (by rw [h]; decide), if_neg (by rw [k.plain c h]; decide)]
      rfl
  have h_pattern : (contains q).toList.map k.fold =
      '%' :: (Like.escape (q.toList.map k.fold) ++ ['%']) := by
    rw [toList_contains, List.map_cons, List.map_append, h_fold, List.map_singleton,
      k.special '%' rfl]
  rw [CaseFolding.ilike, h_pattern, Like.tokens_contains]
  exact Like.isMatch_contains

/-- Case folding where there is one case. -/
def oneCase : CaseFolding where
  fold := id
  special _ _ := rfl
  plain _ h := h

/-- A wildcard in the search text is an ordinary character. -/
theorem ilike_contains_wildcards :
    oneCase.ilike "sales_50%" (contains "_50%") = true ∧
      oneCase.ilike "sales 500" (contains "_50%") = false := by
  refine ⟨(ilike_contains_iff oneCase _ _).mpr (by decide), Bool.eq_false_iff.mpr fun h_match => ?_⟩
  exact absurd ((ilike_contains_iff oneCase _ _).mp h_match) (by decide)

/-! ### Pages -/

/-- `Pagination` -/
structure Pagination where
  page : ℕ := 1
  pageSize : ℕ := 25
  q : String := ""
  page_pos : 1 ≤ page := by decide
  pageSize_pos : 1 ≤ pageSize := by decide
  pageSize_le : pageSize ≤ 100 := by decide
  q_length : q.length ≤ 200 := by decide

/-- `Page` -/
structure Page (γ : Type) where
  items : List γ
  total : ℕ
  page : ℕ
  pageSize : ℕ

/-- The arguments of `fetch_page` that a caller fixes. -/
structure Listing (ρ κ γ : Type) where
  projection : ρ → γ
  predicates : ρ → Bool
  order : ρ → κ

variable {ρ κ γ : Type} [LinearOrder κ]

/-- `fetch_page`: the count sees `counted`, and the page `source`. -/
def Listing.fetchPage (l : Listing ρ κ γ) (paging : Pagination) (counted source : List ρ) :
    Page γ where
  items := (((sortByKey l.order (source.filter l.predicates)).drop
    ((paging.page - 1) * paging.pageSize)).take paging.pageSize).map l.projection
  total := (counted.filter l.predicates).length
  page := paging.page
  pageSize := paging.pageSize

/-! ### A walk -/

namespace Listing

variable {l : Listing ρ κ γ}

/-- The rows of a state, in order. -/
def rows (l : Listing ρ κ γ) (source : List ρ) : List ρ :=
  sortByKey l.order (source.filter l.predicates)

/-- A listing shows the rows that its filters keep. -/
theorem mem_rows {source : List ρ} {row : ρ} :
    row ∈ l.rows source ↔ row ∈ source ∧ l.predicates row = true := by
  rw [rows, (perm_sortByKey l.order _).mem_iff, List.mem_filter]

theorem length_rows (l : Listing ρ κ γ) (source : List ρ) :
    (l.rows source).length = (source.filter l.predicates).length :=
  (perm_sortByKey l.order _).length_eq

/-- The items of a page are a slice of the filtered rows. -/
theorem items_fetchPage (l : Listing ρ κ γ) (paging : Pagination) (counted source : List ρ) :
    (l.fetchPage paging counted source).items =
      (slice paging.pageSize (l.rows source) paging.page).map l.projection := by
  rw [slice_eq_take_drop _ paging.page_pos]
  rfl

/-- The keys of the rows of a state, in order. -/
def keys (l : Listing ρ κ γ) (source : List ρ) : List κ := (l.rows source).map l.order

/-- The keys of a listing are those of its rows. -/
theorem mem_keys {source : List ρ} {key : κ} :
    key ∈ l.keys source ↔ ∃ row ∈ source, l.predicates row = true ∧ l.order row = key := by
  rw [keys, List.mem_map]
  constructor
  · rintro ⟨row, h_row, rfl⟩
    exact ⟨row, (mem_rows.mp h_row).1, (mem_rows.mp h_row).2, rfl⟩
  · rintro ⟨row, h_row, h_predicates, rfl⟩
    exact ⟨row, mem_rows.mpr ⟨h_row, h_predicates⟩, rfl⟩

/-- Rows with distinct ids have distinct keys. -/
theorem nodup_keys {source : List ρ} (h : (source.map l.order).Nodup) : (l.keys source).Nodup :=
  ((perm_sortByKey l.order _).map l.order).nodup_iff.mpr
    (h.sublist (List.filter_sublist.map _))

/-- A listing is ordered by its keys. -/
theorem pairwise_keys (l : Listing ρ κ γ) (source : List ρ) :
    (l.keys source).Pairwise (· ≤ ·) :=
  List.pairwise_map.mpr (List.pairwise_insertionSort (fun a b => l.order a ≤ l.order b) _)

end Listing

/-- A collection as the `n`-th request of a walk sees it at its page: rows have their own keys, and
one that matches stays and goes on to match. -/
structure Growing (l : Listing ρ κ γ) (source : ℕ → List ρ) : Prop where
  distinct : ∀ n, ((source n).map l.order).Nodup
  kept : ∀ n, ∀ row ∈ source n, l.predicates row = true →
    ∃ row' ∈ source (n + 1), l.predicates row' = true ∧ l.order row' = l.order row

namespace Growing

variable {l : Listing ρ κ γ} {counted source : ℕ → List ρ} {paging : ℕ → Pagination} {k width : ℕ}

/-- The keys of later rows are inserted among those of the earlier ones. -/
theorem sublist_keys (h : Growing l source) (n : ℕ) :
    (l.keys (source n)).Sublist (l.keys (source (n + 1))) := by
  refine List.sublist_of_subperm_of_pairwise ?_ (l.pairwise_keys _) (l.pairwise_keys _)
  refine (Listing.nodup_keys (h.distinct n)).subperm fun key h_key => ?_
  obtain ⟨row, h_row, h_predicates, rfl⟩ := Listing.mem_keys.mp h_key
  exact Listing.mem_keys.mpr (h.kept n row h_row h_predicates)

/-- A page that is not full is the last one. -/
theorem length_rows_lt (h_size : (paging k).pageSize = width) (h_page : (paging k).page = k)
    (h_short : (l.fetchPage (paging k) (counted k) (source k)).items.length < width) :
    (l.rows (source k)).length < k * width := by
  have h_pos : 1 ≤ k := h_page ▸ (paging k).page_pos
  rw [Listing.items_fetchPage, List.length_map, h_size, h_page, length_slice _ _ h_pos,
    sliceLength] at h_short
  obtain ⟨m, rfl⟩ := Nat.exists_eq_add_of_le' h_pos
  rw [Nat.add_sub_cancel] at h_short
  rw [Nat.succ_mul]
  omega

/-- **Walk.** The pages `1, …, k` show every row that matched at the first one, if the last of them
is not full, or reaches the total and nothing changed after its count. -/
theorem exists_mem_items (h : Growing l source)
    (h_paging : ∀ n, 1 ≤ n → n ≤ k → (paging n).page = n ∧ (paging n).pageSize = width)
    (h_k : 1 ≤ k)
    (h_last : (l.fetchPage (paging k) (counted k) (source k)).items.length < width ∨
      (l.fetchPage (paging k) (counted k) (source k)).total ≤ k * width ∧ source k = counted k)
    {row : ρ} (h_row : row ∈ source 1) (h_predicates : l.predicates row = true) :
    ∃ n, 1 ≤ n ∧ n ≤ k ∧ ∃ row', l.order row' = l.order row ∧
      l.projection row' ∈ (l.fetchPage (paging n) (counted n) (source n)).items := by
  have h_end : (l.keys (source k)).length ≤ k * width := by
    obtain ⟨h_page, h_size⟩ := h_paging k h_k (Nat.le_refl k)
    rw [Listing.keys, List.length_map]
    rcases h_last with h_short | ⟨h_total, h_same⟩
    · exact (length_rows_lt h_size h_page h_short).le
    · rw [Listing.length_rows, h_same]
      exact h_total
  have h_key : l.order row ∈ l.keys (source 1) :=
    Listing.mem_keys.mpr ⟨row, h_row, h_predicates, rfl⟩
  obtain ⟨n, h_pos, h_le, h_mem⟩ := exists_mem_slice (fun n _ _ => h.sublist_keys n)
    (fun n _ _ => Listing.nodup_keys (h.distinct n)) h_k h_end h_key
  obtain ⟨h_page, h_size⟩ := h_paging n h_pos h_le
  rw [Listing.keys, ← map_slice] at h_mem
  obtain ⟨row', h_row', h_order⟩ := List.mem_map.mp h_mem
  refine ⟨n, h_pos, h_le, row', h_order, ?_⟩
  rw [Listing.items_fetchPage, h_page, h_size]
  exact List.mem_map_of_mem h_row'

end Growing

/-! ### Assets -/

/-- A row of `data_assets`. -/
structure AssetRow where
  tenantId : Uuid
  createdAt : Time
  asset : DataAsset

/-- The collection of `list_assets`, the newest first. -/
def listAssets (k : CaseFolding) (tenantId : Uuid) (format : Option FileFormat) (q : String) :
    Listing AssetRow (ℤᵒᵈ ×ₗ ℕᵒᵈ) AssetRow where
  projection := id
  predicates row := row.tenantId = tenantId
    && (q = "" || k.ilike row.asset.assetName (contains q) || k.ilike row.asset.slug (contains q))
    && format.all fun f => row.asset.format = f
  order row := toLex (OrderDual.toDual row.createdAt, OrderDual.toDual row.asset.assetId.value)

/-- What the user asks for: an asset of the tenant, of the format, whose name or slug contains the
search text up to case. -/
structure AssetFound (k : CaseFolding) (tenantId : Uuid) (format : Option FileFormat) (q : String)
    (row : AssetRow) : Prop where
  tenant : row.tenantId = tenantId
  text : q = "" ∨ q.toList.map k.fold <:+: row.asset.assetName.toList.map k.fold ∨
    q.toList.map k.fold <:+: row.asset.slug.toList.map k.fold
  format : ∀ f ∈ format, row.asset.format = f

/-- Which assets the route lists. -/
theorem predicates_listAssets {k : CaseFolding} {tenantId : Uuid} {format : Option FileFormat}
    {q : String} {row : AssetRow} :
    (listAssets k tenantId format q).predicates row = true ↔
      AssetFound k tenantId format q row := by
  simp only [listAssets, Bool.and_eq_true, Bool.or_eq_true, decide_eq_true_iff,
    ilike_contains_iff, Option.all_eq_true]
  constructor
  · rintro ⟨⟨h_tenant, h_text⟩, h_format⟩
    exact ⟨h_tenant, or_assoc.mp h_text, h_format⟩
  · rintro ⟨h_tenant, h_text, h_format⟩
    exact ⟨⟨h_tenant, or_assoc.mpr h_text⟩, h_format⟩

/-- What never changes of an asset; a registration changes its version only. -/
structure SameAsset (row row' : AssetRow) : Prop where
  tenantId : row'.tenantId = row.tenantId
  createdAt : row'.createdAt = row.createdAt
  assetId : row'.asset.assetId = row.asset.assetId
  assetName : row'.asset.assetName = row.asset.assetName
  slug : row'.asset.slug = row.asset.slug
  format : row'.asset.format = row.asset.format

/-- An asset that changes its statistics only is still found. -/
theorem SameAsset.found {k : CaseFolding} {tenantId : Uuid} {format : Option FileFormat}
    {q : String} {row row' : AssetRow} (h : SameAsset row row')
    (h_found : AssetFound k tenantId format q row) : AssetFound k tenantId format q row' where
  tenant := h.tenantId.trans h_found.tenant
  text := by
    rw [h.assetName, h.slug]
    exact h_found.text
  format f h_f := h.format.trans (h_found.format f h_f)

/-- While assets are only added, their listing only grows. -/
theorem growing_listAssets {source : ℕ → List AssetRow}
    (h_ids : ∀ n, ((source n).map (·.asset.assetId)).Nodup)
    (h_kept : ∀ n, ∀ row ∈ source n, ∃ row' ∈ source (n + 1), SameAsset row row')
    (k : CaseFolding) (tenantId : Uuid) (format : Option FileFormat) (q : String) :
    Growing (listAssets k tenantId format q) source where
  distinct n := by
    refine List.Pairwise.imp_of_mem ?_ (List.pairwise_map.mp (h_ids n)) |> List.pairwise_map.mpr
    intro a b _ _ h_ne h_order
    exact h_ne (Uuid.value_injective (congrArg (fun key => OrderDual.ofDual (ofLex key).2) h_order))
  kept n row h_row h_predicates := by
    obtain ⟨row', h_row', h_same⟩ := h_kept n row h_row
    refine ⟨row', h_row', ?_, ?_⟩
    · exact predicates_listAssets.mpr (h_same.found (predicates_listAssets.mp h_predicates))
    · show toLex (OrderDual.toDual row'.createdAt, _) = toLex (OrderDual.toDual row.createdAt, _)
      rw [h_same.createdAt, h_same.assetId]

/-- **A walk through the assets**, while others add assets and register versions: every asset that
was asked for and there at the first page is on one of the pages, if the last page is not full, or
reaches the total and nothing was added after its count. What is on a page was asked for. -/
theorem assets_walk {k : CaseFolding} {tenantId : Uuid} {format : Option FileFormat} {q : String}
    {counted source : ℕ → List AssetRow} {paging : ℕ → Pagination} {pages width : ℕ}
    (h_ids : ∀ n, ((source n).map (·.asset.assetId)).Nodup)
    (h_kept : ∀ n, ∀ row ∈ source n, ∃ row' ∈ source (n + 1), SameAsset row row')
    (h_paging : ∀ n, 1 ≤ n → n ≤ pages → (paging n).page = n ∧ (paging n).pageSize = width)
    (h_pages : 1 ≤ pages)
    (h_last : ∀ answer, answer = (listAssets k tenantId format q).fetchPage (paging pages)
        (counted pages) (source pages) →
      answer.items.length < width ∨
        answer.total ≤ pages * width ∧ source pages = counted pages) :
    (∀ row ∈ source 1, AssetFound k tenantId format q row →
      ∃ n, 1 ≤ n ∧ n ≤ pages ∧
        ∃ row' ∈ ((listAssets k tenantId format q).fetchPage (paging n) (counted n)
          (source n)).items, row'.asset.assetId = row.asset.assetId) ∧
    ∀ n, ∀ row ∈ ((listAssets k tenantId format q).fetchPage (paging n) (counted n)
      (source n)).items, row ∈ source n ∧ AssetFound k tenantId format q row := by
  refine ⟨fun row h_row h_found => ?_, fun n row h_row => ?_⟩
  · obtain ⟨n, h_pos, h_le, row', h_order, h_item⟩ :=
      (growing_listAssets h_ids h_kept k tenantId format q).exists_mem_items h_paging h_pages
        (h_last _ rfl) h_row (predicates_listAssets.mpr h_found)
    refine ⟨n, h_pos, h_le, row', h_item, Uuid.value_injective ?_⟩
    exact congrArg (fun key => OrderDual.ofDual (ofLex key).2) h_order
  · obtain ⟨row', h_row', rfl⟩ := List.mem_map.mp h_row
    have h_mem := Listing.mem_rows.mp (List.mem_of_mem_drop (List.mem_of_mem_take h_row'))
    exact ⟨h_mem.1, predicates_listAssets.mp h_mem.2⟩

/-! ### A row that is seen twice -/

/-- Assets by their age. -/
def numberedAsset (n : ℕ) : AssetRow where
  tenantId := Uuid.repeated 1
  createdAt := n
  asset := { assetId := Uuid.repeated n, assetName := "runs", slug := "runs", format := .csv }

/-- Three assets, and a fourth after the first page. -/
def fourthAdded (n : ℕ) : List AssetRow :=
  if n ≤ 1 then [numberedAsset 1, numberedAsset 2, numberedAsset 3]
  else [numberedAsset 1, numberedAsset 2, numberedAsset 3, numberedAsset 4]

/-- The pages 1 and 2, of two items. -/
def twoByTwo (n : ℕ) : Pagination where
  page := min 2 (max 1 n)
  pageSize := 2
  page_pos := by omega

theorem assets_walk_fourthAdded :
    ∃ n, 1 ≤ n ∧ n ≤ 2 ∧
      ∃ row ∈ ((listAssets oneCase (Uuid.repeated 1) none "").fetchPage (twoByTwo n)
        (fourthAdded n) (fourthAdded n)).items, row.asset.assetId = Uuid.repeated 1 := by
  have h_ids : ∀ n, ((fourthAdded n).map (·.asset.assetId)).Nodup := by
    intro n
    unfold fourthAdded
    split <;> decide
  have h_kept : ∀ n, ∀ row ∈ fourthAdded n, ∃ row' ∈ fourthAdded (n + 1), SameAsset row row' := by
    intro n row h_row
    refine ⟨row, ?_, ⟨rfl, rfl, rfl, rfl, rfl, rfl⟩⟩
    by_cases h_first : n ≤ 1
    · rw [fourthAdded, if_pos h_first] at h_row
      unfold fourthAdded
      split
      · exact h_row
      · exact List.mem_append_left [numberedAsset 4] h_row
    · rw [fourthAdded, if_neg h_first] at h_row
      rw [fourthAdded, if_neg (by omega)]
      exact h_row
  have h_paging : ∀ n, 1 ≤ n → n ≤ 2 → (twoByTwo n).page = n ∧ (twoByTwo n).pageSize = 2 := by
    intro n h_pos h_le
    exact ⟨by show min 2 (max 1 n) = n; omega, rfl⟩
  have h_last : ∀ answer, answer = (listAssets oneCase (Uuid.repeated 1) none "").fetchPage
      (twoByTwo 2) (fourthAdded 2) (fourthAdded 2) →
      answer.items.length < 2 ∨ answer.total ≤ 2 * 2 ∧ fourthAdded 2 = fourthAdded 2 := by
    rintro _ rfl
    exact Or.inr ⟨by decide +kernel, rfl⟩
  refine (assets_walk h_ids h_kept h_paging (by decide) h_last).1 (numberedAsset 1) ?_ ?_
  · exact List.mem_cons_self
  · exact ⟨rfl, Or.inl rfl, fun _ h => by cases h⟩

end DqScoring
