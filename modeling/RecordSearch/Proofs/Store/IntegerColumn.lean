import RecordSearch.Proofs.Number.Rounding
import RecordSearch.Proofs.Store.Pages

/-!
# Rows sorted by an integer column

Rows are sorted by the floating point numbers that their integers become. Rounding keeps the order
of integers but not their differences, so the integers of sorted rows rise, except that two of them
which round to one number stay in the order of their insertion. Integers of at most 53 binary digits
are all told apart.
-/

namespace RecordSearch

open Number Number.Binary64

namespace Json

theorem place_integer (i : Int) : (Json.integer i).place = landing i := by
  rw [place, asFloat?, Option.bind_some, position?_ofInt, Option.getD_some]

theorem compareFields_integer (i j : Int) :
    compareFields (some (.integer i)) (some (.integer j)) = compare (landing i) (landing j) := by
  have hpresent : compareFields (some (.integer i)) (some (.integer j)) =
      comparePresent (.integer i) (.integer j) := rfl
  rw [hpresent, comparePresent_number (a := .integer i) (b := .integer j) rfl rfl rfl rfl,
    place_integer, place_integer]

end Json

namespace Store

open Json

/-- Two rows whose integers under a column are in order. -/
def Rises (column : String) (a b : Json) : Prop :=
  ∀ i j, a.get? column = some (.integer i) → b.get? column = some (.integer j) → i ≤ j

/-- Two rows whose integers under a column are in order or round to one number, which takes more
than 53 binary digits in one of them. -/
def RisesRounded (column : String) (a b : Json) : Prop :=
  ∀ i j, a.get? column = some (.integer i) → b.get? column = some (.integer j) →
    i ≤ j ∨ ofInt i = ofInt j ∧ (2 ^ 53 < i.natAbs ∨ 2 ^ 53 < j.natAbs)

section Rows

variable {column : String} {rows ranked : List Json}

theorem risesRounded_of_compareRows {a b : Json} (h : compareRows column a b ≠ .gt) :
    RisesRounded column a b := by
  intro i j ha hb
  rw [compareRows, ha, hb, compareFields_integer] at h
  have hlanding : landing i ≤ landing j := Int.compare_ne_gt.1 h
  by_cases hij : i ≤ j
  · exact Or.inl hij
  · have hequal : landing i = landing j :=
      Int.le_antisymm hlanding (landing_mono (by omega))
    exact Or.inr ⟨ofInt_eq_of_landing_eq hequal, lt_natAbs_of_landing_eq (by omega) hequal⟩

theorem IsAscending.pairwise_risesRounded (h : IsAscending column rows ranked) :
    ranked.Pairwise (RisesRounded column) :=
  h.ordered.imp risesRounded_of_compareRows

/-- Short integers are told apart by their floating point numbers. -/
theorem IsAscending.pairwise_rises (h : IsAscending column rows ranked)
    (hshort : ∀ row ∈ rows, ∀ n, row.get? column = some (.integer n) → n.natAbs ≤ 2 ^ 53) :
    ranked.Pairwise (Rises column) := by
  refine h.pairwise_risesRounded.imp_of_mem ?_
  intro a b ha hb hrises i j hi hj
  have hi' := hshort a (h.perm.mem_iff.1 ha) i hi
  have hj' := hshort b (h.perm.mem_iff.1 hb) j hj
  rcases hrises i j hi hj with hle | ⟨-, hlong⟩
  · exact hle
  · omega

theorem isFinite_of_integers (h : ∀ row ∈ rows, ∃ n, row.get? column = some (.integer n)) :
    IsFinite column rows := by
  intro row hrow value hvalue
  obtain ⟨n, hn⟩ := h row hrow
  rw [hn] at hvalue
  cases hvalue
  rfl

end Rows

/-- **An integer column sorts rows by the rounded integers.** A request by such a column is answered
with the rows that match, all or one page of them, in one order or backwards. In this order the
integers rise, but for those that round to one number, which stay as they were inserted; if the
integers have at most 53 binary digits, they rise without exception. -/
theorem select_integerColumn (store : Store) (table : String) (predicates : List Predicate)
    (column : String) (htable : Name.tableFault? table = none)
    (hcolumn : Name.fault? column = none)
    (hrows : ∀ row ∈ store.rows table, ∃ n, row.get? column = some (.integer n)) :
    ∃ ascending, IsAscending column (store.matching table predicates) ascending ∧
      ascending.Pairwise (RisesRounded column) ∧
      ((∀ row ∈ store.matching table predicates, ∀ n, row.get? column = some (.integer n) →
        n.natAbs ≤ 2 ^ 53) → ascending.Pairwise (Rises column)) ∧
      ∀ request skipPaging, (Paging.normalize request store.defaults).sortBy = column →
        let paging := Paging.normalize request store.defaults
        let all := arrange paging.sortOrder ascending
        store.select table predicates request skipPaging =
          .ok ⟨if skipPaging then all else paging.slice all, paging.summary all.length⟩ := by
  have hfinite : IsFinite column (store.matching table predicates) :=
    isFinite_of_integers fun row hrow => hrows row (mem_rows_of_mem_matching hrow)
  have hascending := isAscending_sorted hfinite
  refine ⟨_, hascending, hascending.pairwise_risesRounded, hascending.pairwise_rises,
    fun request skipPaging hsort => ?_⟩
  subst hsort
  intro paging all
  have hall : all = sorted paging.sortBy paging.sortOrder (store.matching table predicates) :=
    (sorted_eq_arrange _ _ _).symm
  rw [hall]
  exact select_eq_ok htable rfl hcolumn skipPaging

def numberRow (n : Int) : Json := .object [("id", .integer n)]

/-- A table of two rows, which are sorted by their integers unless a request says otherwise. -/
def pairStore (first second : Int) : Store where
  tables := [("app.results", [numberRow first, numberRow second])]
  defaults := { PagingDefaults.standard with sortBy := "id" }

theorem mem_rows_pairStore {first second : Int} {row : Json}
    (h : row ∈ (pairStore first second).rows "app.results") :
    row = numberRow first ∨ row = numberRow second := by
  have hrows : (pairStore first second).rows "app.results" =
      [numberRow first, numberRow second] := rfl
  rwa [hrows, List.mem_pair] at h

/-- The two integers of 54 binary digits that are still told apart. -/
theorem select_integerColumn_pairStore :
    Name.tableFault? "app.results" = none ∧ Name.fault? "id" = none ∧
    ∃ ascending, ascending.Perm [numberRow 9007199254740992, numberRow (-9007199254740992)] ∧
      ascending.Pairwise (Rises "id") ∧
      (pairStore 9007199254740992 (-9007199254740992)).select "app.results" [] none true =
        .ok ⟨ascending, ⟨1, 25, "id", false, 2⟩⟩ := by
  have hinteger : ∀ row ∈ (pairStore 9007199254740992 (-9007199254740992)).rows "app.results",
      ∃ n : Int, row.get? "id" = some (.integer n) ∧ n.natAbs ≤ 2 ^ 53 := by
    intro row hrow
    rcases mem_rows_pairStore hrow with rfl | rfl
    · exact ⟨9007199254740992, rfl, by decide⟩
    · exact ⟨-9007199254740992, rfl, by decide⟩
  obtain ⟨ascending, hascending, -, hrises, hselect⟩ :=
    select_integerColumn (pairStore 9007199254740992 (-9007199254740992)) "app.results" [] "id"
      (by decide +kernel) (by decide +kernel) fun row hrow => (hinteger row hrow).imp fun _ h => h.1
  have hperm : ascending.Perm [numberRow 9007199254740992, numberRow (-9007199254740992)] :=
    hascending.perm
  refine ⟨by decide +kernel, by decide +kernel, ascending, hperm, hrises ?_, ?_⟩
  · intro row hrow n hn
    obtain ⟨m, hm, hshort⟩ := hinteger row (mem_rows_of_mem_matching hrow)
    rw [hm] at hn
    cases hn
    exact hshort
  · have hnormalize : Paging.normalize none
        (pairStore 9007199254740992 (-9007199254740992)).defaults = ⟨1, 25, "id", .ascending⟩ := by
      decide +kernel
    have hanswer := hselect none true (by rw [hnormalize])
    rw [hnormalize] at hanswer
    rw [hanswer]
    simp [arrange, SortOrder.isDescending, Paging.summary, hperm.length_eq]

/-- Two integers of 54 binary digits that round to one number stay as they were inserted, the
greater one first. -/
theorem select_pairStore_falls :
    (9007199254740992 : Int) < 9007199254740993 ∧
    (pairStore 9007199254740993 9007199254740992).select "app.results" [] none true =
      .ok ⟨[numberRow 9007199254740993, numberRow 9007199254740992], ⟨1, 25, "id", false, 2⟩⟩ := by
  have hnormalize : Paging.normalize none
      (pairStore 9007199254740993 9007199254740992).defaults = ⟨1, 25, "id", .ascending⟩ := by
    decide +kernel
  have hmatching : (pairStore 9007199254740993 9007199254740992).matching "app.results" [] =
      [numberRow 9007199254740993, numberRow 9007199254740992] := rfl
  have htied : compareFields ((numberRow 9007199254740993).get? "id")
      ((numberRow 9007199254740992).get? "id") = .eq := by
    decide +kernel
  refine ⟨by decide, ?_⟩
  rw [select_eq_ok (by decide +kernel) hnormalize (by decide +kernel), hmatching]
  simp [sorted, List.mergeSort, List.MergeSort.Internal.splitInTwo, htied, Paging.summary,
    SortOrder.isDescending]

end Store

end RecordSearch
