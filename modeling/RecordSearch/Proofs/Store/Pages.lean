import RecordSearch.Proofs.Resolution.Selection
import RecordSearch.Proofs.Sql.Execution
import RecordSearch.Proofs.Store.Sorting

/-!
# Pages

The pages of a request, put one behind the other, are the rows that the request finds without
paging. A page so far behind that the count of rows before it is held at the greatest 64-bit number
is empty, as it should be: there are fewer rows than that.
-/

namespace RecordSearch

/-! ### One page -/

theorem flatMap_extract_range {α : Type} (records : List α) (length count : Nat) :
    (List.range count).flatMap (fun n => records.extract (n * length) ((n + 1) * length)) =
      records.take (count * length) := by
  induction count with
  | zero => simp
  | succ count ih =>
      rw [List.range_succ, List.flatMap_append, ih]
      simp [List.extract_eq_take_drop, Nat.succ_mul, List.take_add]

/-- The same request for another page. -/
def PageRequest.atPage (request : Option PageRequest) (page : Nat) : PageRequest :=
  { request.getD .empty with page := some page }

namespace Paging

theorem slice_eq_extract {α : Type} {paging : Paging} {records : List α} {page length : Nat}
    (hpage : paging.page = page) (hlength : paging.pageLength = length) (hfirst : 0 < page)
    (hrecords : (records.length : Int) ≤ maxOffset) :
    paging.slice records = records.extract ((page - 1) * length) (page * length) := by
  have hoffset : paging.offset = min (((page - 1) * length : Nat) : Int) maxOffset := by
    rw [offset, hpage, hlength, Int.natCast_mul, Int.natCast_sub hfirst, Int.mul_comm]
    rfl
  -- Held back or not, the offset leaves the same rows: none, if it is beyond the last of them.
  have hdrop : records.drop paging.offset.toNat = records.drop ((page - 1) * length) := by
    rcases Int.le_total (((page - 1) * length : Nat) : Int) maxOffset with hle | hle
    · rw [hoffset, Int.min_eq_left hle, Int.toNat_natCast]
    · rw [hoffset, Int.min_eq_right hle, List.drop_eq_nil_of_le (by omega),
        List.drop_eq_nil_of_le (by omega)]
  have hwidth : page * length - (page - 1) * length = length := by
    rw [← Nat.sub_mul, Nat.sub_sub_self hfirst, Nat.one_mul]
  rw [slice, hdrop, hlength, Int.toNat_natCast, List.extract_eq_take_drop, hwidth]

theorem exists_normalize_eq (request : Option PageRequest) (defaults : PagingDefaults) :
    ∃ page length : Nat, (normalize request defaults).page = page ∧
      (normalize request defaults).pageLength = length ∧ 0 < page ∧ 0 < length := by
  have hpage := one_le_page_normalize request defaults
  have hlength := one_le_pageLength_normalize request defaults
  exact ⟨_, _, (Int.toNat_of_nonneg (by omega)).symm, (Int.toNat_of_nonneg (by omega)).symm,
    by omega, by omega⟩

theorem normalize_atPage (request : Option PageRequest) (defaults : PagingDefaults) {page : Nat}
    (hfirst : 0 < page) :
    normalize (some (PageRequest.atPage request page)) defaults =
      { normalize request defaults with page := page } := by
  have hpage : (1 : Int) ≤ page := by omega
  simp [normalize, PageRequest.atPage, Option.filter, hpage]

end Paging

/-! ### All pages -/

namespace Store

/-- The rows of the first pages that answer a request, one page behind the other. -/
def firstPages (store : Store) (table : String) (predicates : List Predicate)
    (request : Option PageRequest) (count : Nat) : Except StoreError (List Json) := do
  let pages ← (List.range count).mapM fun (n : Nat) =>
    store.select table predicates (some (.atPage request (n + 1))) false
  .ok (pages.flatMap (·.rows))

/-- Rows sorted from the least up, in a given order. -/
def arrange (order : SortOrder) (ascending : List Json) : List Json :=
  if order.isDescending then ascending.reverse else ascending

theorem sorted_eq_arrange (column : String) (order : SortOrder) (rows : List Json) :
    sorted column order rows = arrange order (sorted column .ascending rows) := by
  cases order <;> rfl

variable {store : Store} {table : String} {predicates : List Predicate}

theorem length_matching_le :
    (store.matching table predicates).length ≤ (store.rows table).length :=
  List.length_filter_le _ _

theorem exists_checkTable_eq_ok (h : Name.tableFault? table = none) :
    ∃ name, checkTable table = .ok name :=
  ⟨⟨table, h⟩, by rw [checkTable, TableName.check_of_tableFault? h]⟩

/-- A request for a table and a column that can be named is answered. -/
theorem select_eq_ok (htable : Name.tableFault? table = none) {request : Option PageRequest}
    {paging : Paging} (hpaging : Paging.normalize request store.defaults = paging)
    (hcolumn : Name.fault? paging.sortBy = none) (skipPaging : Bool) :
    let found := sorted paging.sortBy paging.sortOrder (store.matching table predicates)
    store.select table predicates request skipPaging =
      .ok ⟨if skipPaging then found else paging.slice found, paging.summary found.length⟩ := by
  subst hpaging
  exact select_eq_ok_iff.2 ⟨exists_checkTable_eq_ok htable, _,
    by rw [pageFor, FieldName.check_of_fault? hcolumn], rfl⟩

/-- Each page is an extract of the rows without paging, held back offsets notwithstanding. -/
theorem select_page (htable : Name.tableFault? table = none)
    (hrows : ((store.rows table).length : Int) < Paging.maxOffset) {request : Option PageRequest}
    {paging : Paging} (hpaging : Paging.normalize request store.defaults = paging)
    (hcolumn : Name.fault? paging.sortBy = none) {page length : Nat} (hpage : paging.page = page)
    (hlength : paging.pageLength = length) (hfirst : 0 < page) :
    let found := sorted paging.sortBy paging.sortOrder (store.matching table predicates)
    store.select table predicates request false = .ok
      ⟨found.extract ((page - 1) * length) (page * length), paging.summary found.length⟩ := by
  intro found
  have hfound : (found.length : Int) ≤ Paging.maxOffset := by
    have hlength : found.length ≤ (store.rows table).length := by
      rw [Store.length_sorted]
      exact length_matching_le
    omega
  rw [select_eq_ok htable hpaging hcolumn, if_neg Bool.false_ne_true,
    Paging.slice_eq_extract hpage hlength hfirst hfound]

theorem firstPages_eq (htable : Name.tableFault? table = none)
    (hrows : ((store.rows table).length : Int) < Paging.maxOffset) {request : Option PageRequest}
    {paging : Paging} (hpaging : Paging.normalize request store.defaults = paging)
    (hcolumn : Name.fault? paging.sortBy = none) {length : Nat}
    (hlength : paging.pageLength = length) (count : Nat) :
    let found := sorted paging.sortBy paging.sortOrder (store.matching table predicates)
    store.firstPages table predicates request count = .ok (found.take (count * length)) := by
  intro found
  have hpages : (fun n : Nat =>
      store.select table predicates (some (.atPage request (n + 1))) false) =
      fun n => pure ⟨found.extract (n * length) ((n + 1) * length),
        { paging with page := (n + 1 : Nat) }.summary found.length⟩ := by
    funext n
    have hnormalize := Paging.normalize_atPage request store.defaults n.succ_pos
    rw [hpaging] at hnormalize
    exact select_page htable hrows hnormalize hcolumn rfl hlength n.succ_pos
  unfold firstPages
  rw [hpages, List.mapM_pure]
  simp only [pure, Except.pure, bind, Except.bind, List.flatMap_map]
  rw [flatMap_extract_range]

/-- **Pages tile what a request finds.** Without paging a request gives the rows that match, sorted
by its column, forwards or backwards. With paging it gives, for the page and the length that are
served, the rows at their places and no others, also where the count of rows before them exceeds
64 bits. The first pages together are the first rows, and enough of them are all. Every page comes
with the count of all rows. The rows are fewer than the greatest 64-bit number. -/
theorem pages_tile (store : Store) (table : String) (predicates : List Predicate) (column : String)
    (htable : Name.tableFault? table = none) (hcolumn : Name.fault? column = none)
    (hrows : ((store.rows table).length : Int) < Paging.maxOffset)
    (hfinite : IsFinite column (store.rows table)) :
    ∃ ascending, IsAscending column (store.matching table predicates) ascending ∧
      ∀ request, (Paging.normalize request store.defaults).sortBy = column →
        let paging := Paging.normalize request store.defaults
        let all := arrange paging.sortOrder ascending
        store.select table predicates request true = .ok ⟨all, paging.summary all.length⟩ ∧
        ∃ page length : Nat, paging.page = page ∧ paging.pageLength = length ∧
          0 < page ∧ 0 < length ∧
          store.select table predicates request false = .ok
            ⟨all.extract ((page - 1) * length) (page * length), paging.summary all.length⟩ ∧
          ∀ count, store.firstPages table predicates request count =
              .ok (all.take (count * length)) ∧
            (all.length ≤ count * length →
              store.firstPages table predicates request count = .ok all) := by
  refine ⟨_, isAscending_sorted fun row hrow => hfinite row (mem_rows_of_mem_matching hrow),
    fun request hsort => ?_⟩
  subst hsort
  intro paging all
  have hall : all = sorted paging.sortBy paging.sortOrder (store.matching table predicates) :=
    (sorted_eq_arrange _ _ _).symm
  obtain ⟨page, length, hpage, hlength, hfirst, hpositive⟩ :=
    Paging.exists_normalize_eq request store.defaults
  have hfirstPages : ∀ count, store.firstPages table predicates request count =
      .ok (all.take (count * length)) := fun count => by
    rw [hall]
    exact firstPages_eq htable hrows rfl hcolumn hlength count
  refine ⟨?_, page, length, hpage, hlength, hfirst, hpositive, ?_,
    fun count => ⟨hfirstPages count, fun hcount => ?_⟩⟩
  · rw [hall]
    exact select_eq_ok htable rfl hcolumn true
  · rw [hall]
    exact select_page htable hrows rfl hcolumn hpage hlength hfirst
  · rw [hfirstPages, List.take_of_length_le hcount]

def resultRow (id : Int) (points : Json) : Json :=
  .object [("id", .integer id), ("points", points)]

def resultStore : Store where
  tables := [("app.results", [resultRow 1 (.integer 3), resultRow 2 .null,
    resultRow 3 (.string "1"), resultRow 4 (.integer 3)])]
  defaults := .standard

/-- Texts come before numbers, equal numbers as they were inserted, and null comes last. -/
theorem sorted_resultStore :
    sorted "points" .ascending (resultStore.matching "app.results" []) =
      [resultRow 3 (.string "1"), resultRow 1 (.integer 3), resultRow 4 (.integer 3),
        resultRow 2 .null] := by
  have hmatching : resultStore.matching "app.results" [] = [resultRow 1 (.integer 3),
    resultRow 2 .null, resultRow 3 (.string "1"), resultRow 4 (.integer 3)] := rfl
  have h12 : Json.compareFields ((resultRow 1 (.integer 3)).get? "points")
      ((resultRow 2 .null).get? "points") = .lt := by decide +kernel
  have h34 : Json.compareFields ((resultRow 3 (.string "1")).get? "points")
      ((resultRow 4 (.integer 3)).get? "points") = .lt := by decide +kernel
  have h13 : Json.compareFields ((resultRow 1 (.integer 3)).get? "points")
      ((resultRow 3 (.string "1")).get? "points") = .gt := by decide +kernel
  have h14 : Json.compareFields ((resultRow 1 (.integer 3)).get? "points")
      ((resultRow 4 (.integer 3)).get? "points") = .eq := by decide +kernel
  have h24 : Json.compareFields ((resultRow 2 .null).get? "points")
      ((resultRow 4 (.integer 3)).get? "points") = .gt := by decide +kernel
  simp [sorted, hmatching, List.mergeSort, List.MergeSort.Internal.splitInTwo, h12, h13, h14, h24,
    h34]

def resultRequest : PageRequest :=
  ⟨none, some 2, some "points", some .descending⟩

theorem pages_tile_resultStore :
    Name.tableFault? "app.results" = none ∧ Name.fault? "points" = none ∧
    ((resultStore.rows "app.results").length : Int) < Paging.maxOffset ∧
    IsFinite "points" (resultStore.rows "app.results") ∧
    resultStore.firstPages "app.results" [] resultRequest 2 =
      .ok [resultRow 2 .null, resultRow 4 (.integer 3), resultRow 1 (.integer 3),
        resultRow 3 (.string "1")] := by
  have hfinite : IsFinite "points" (resultStore.rows "app.results") := by
    simp only [IsFinite, resultStore, Store.rows]
    decide +kernel
  have hpaging : Paging.normalize resultRequest resultStore.defaults =
      ⟨1, 2, "points", .descending⟩ := by decide +kernel
  obtain ⟨ascending, -, hrequest⟩ := pages_tile resultStore "app.results" [] "points"
    (by decide +kernel) (by decide +kernel) (by decide +kernel) hfinite
  have hpages := hrequest resultRequest (by rw [hpaging])
  simp only [hpaging] at hpages
  obtain ⟨hall, page, length, -, hlength, -, -, -, hpages⟩ := hpages
  obtain rfl : 2 = length := Int.ofNat.inj hlength
  rw [select_eq_ok (by decide +kernel) hpaging (by decide +kernel), if_pos rfl,
    sorted_eq_arrange, sorted_resultStore] at hall
  have hsorted := (Selection.mk.inj (Except.ok.inj hall)).1
  refine ⟨by decide +kernel, by decide +kernel, by decide +kernel, hfinite, ?_⟩
  exact ((hpages 2).2 (by rw [← hsorted]; decide)).trans (congrArg Except.ok hsorted.symm)

end Store

end RecordSearch
