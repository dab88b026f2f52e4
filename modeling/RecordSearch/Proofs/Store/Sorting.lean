import RecordSearch.Proofs.Json.Order
import RecordSearch.Store.Basic

/-!
# Sorted rows

Sorting rows by a column loses none and invents none, puts them in the order of their members under
the column, keeps the order of those that are equal in it, and leaves those without a value for the
end.
-/

namespace RecordSearch.Store

open Json

variable {column : String} {rows : List Json}

theorem length_sorted (column : String) (order : SortOrder) (rows : List Json) :
    (sorted column order rows).length = rows.length := by
  cases order <;> simp [sorted]

/-- The order of rows by a column. -/
def compareRows (column : String) (a b : Json) : Ordering :=
  compareFields (a.get? column) (b.get? column)

def isTied (column : String) (a b : Json) : Bool :=
  compareRows column a b == .eq

/-- The rows of a table, sorted by a column from the least up. -/
structure IsAscending (column : String) (rows sorted : List Json) : Prop where
  perm : sorted.Perm rows
  ordered : sorted.Pairwise fun a b => compareRows column a b ≠ .gt
  /-- Rows that are equal in the column stay in the order they had. -/
  ties : ∀ row ∈ rows, sorted.filter (isTied column row) = rows.filter (isTied column row)
  /-- Behind a row without a value comes no row with one. -/
  absent_last : sorted.Pairwise fun a b => a.field? column = none → b.field? column = none

/-- Whether the members of rows under a column are values of JSON: numbers in it are finite. -/
def IsFinite (column : String) (rows : List Json) : Prop :=
  ∀ row ∈ rows, ∀ value ∈ row.get? column, value.isFinite = true

def rowKey (column : String) (row : Json) : Nat × Int × String :=
  memberKey (row.get? column)

theorem compareRows_eq (hrows : IsFinite column rows) {a b : Json} (ha : a ∈ rows)
    (hb : b ∈ rows) : compareRows column a b = compareKeys (rowKey column a) (rowKey column b) :=
  compareFields_eq (hrows a ha) (hrows b hb)

/-- The order of rows by their keys, which is total and transitive on all values. -/
def keyLe (column : String) (a b : Json) : Bool :=
  (compareKeys (rowKey column a) (rowKey column b)).isLE

theorem keyLe_trans (a b c : Json) (hab : keyLe column a b = true) (hbc : keyLe column b c = true) :
    keyLe column a c = true :=
  Std.TransCmp.isLE_trans hab hbc

theorem keyLe_total (a b : Json) : (keyLe column a b || keyLe column b a) = true := by
  have hswap : compareKeys (rowKey column b) (rowKey column a) =
      (compareKeys (rowKey column a) (rowKey column b)).swap := Std.OrientedCmp.eq_swap
  unfold keyLe
  rw [hswap]
  cases compareKeys (rowKey column a) (rowKey column b) <;> rfl

theorem sorted_ascending_eq (hrows : IsFinite column rows) :
    sorted column .ascending rows = rows.mergeSort (keyLe column) := by
  have h := List.map_mergeSort (f := id) (l := rows)
    (r := fun a b => compareRows column a b != .gt) (s := keyLe column) fun a ha b hb => by
      simp only [compareRows_eq hrows ha hb, keyLe, id]
      cases compareKeys (rowKey column a) (rowKey column b) <;> rfl
  rwa [List.map_id, List.map_id] at h

theorem ordered_sorted (hrows : IsFinite column rows) :
    (sorted column .ascending rows).Pairwise fun a b => compareRows column a b ≠ .gt := by
  rw [sorted_ascending_eq hrows]
  refine (List.pairwise_mergeSort keyLe_trans keyLe_total rows).imp_of_mem ?_
  intro a b ha hb hle
  rw [compareRows_eq hrows (List.mem_mergeSort.1 ha) (List.mem_mergeSort.1 hb)]
  exact Ordering.ne_gt_iff_isLE.2 hle

theorem pairwise_filter_isTied (hrows : IsFinite column rows) {row : Json} (hrow : row ∈ rows) :
    (rows.filter (isTied column row)).Pairwise (keyLe column · ·) := by
  apply List.pairwise_of_forall_mem_list
  intro a ha b hb
  obtain ⟨ha, hta⟩ := List.mem_filter.1 ha
  obtain ⟨hb, htb⟩ := List.mem_filter.1 hb
  rw [isTied, beq_iff_eq, compareRows_eq hrows hrow ha] at hta
  rw [isTied, beq_iff_eq, compareRows_eq hrows hrow hb] at htb
  have htied : compareKeys (rowKey column a) (rowKey column b) = .eq :=
    Std.TransCmp.eq_trans (Std.OrientedCmp.eq_symm hta) htb
  simp [keyLe, htied]

/-- The rows tied with one are a sublist of the rows that is in order as it is, so they are a
sublist of the sorted rows too, and there are no more of them in these. -/
theorem filter_isTied_sorted (hrows : IsFinite column rows) {row : Json} (hrow : row ∈ rows) :
    (sorted column .ascending rows).filter (isTied column row) =
      rows.filter (isTied column row) := by
  have hsub : (rows.filter (isTied column row)).Sublist (sorted column .ascending rows) := by
    rw [sorted_ascending_eq hrows]
    apply List.sublist_mergeSort keyLe_trans keyLe_total
    · exact pairwise_filter_isTied hrows hrow
    · exact List.filter_sublist
  have htied := hsub.filter (isTied column row)
  simp only [List.filter_filter, Bool.and_self] at htied
  have hlength : (rows.filter (isTied column row)).length =
      ((sorted column .ascending rows).filter (isTied column row)).length :=
    ((List.mergeSort_perm rows _).filter _).length_eq.symm
  exact (htied.eq_of_length hlength).symm

theorem absent_of_compareRows {a b : Json} (h : compareRows column a b ≠ .gt)
    (hnone : a.field? column = none) : b.field? column = none := by
  cases hsome : b.field? column with
  | none => rfl
  | some value =>
      exfalso
      apply h
      unfold field? at hnone hsome
      simp only [compareRows, compareFields, hnone, hsome]

theorem isAscending_sorted (hrows : IsFinite column rows) :
    IsAscending column rows (sorted column .ascending rows) where
  perm := List.mergeSort_perm rows _
  ordered := ordered_sorted hrows
  ties := fun _ hrow => filter_isTied_sorted hrows hrow
  absent_last := (ordered_sorted hrows).imp absent_of_compareRows

end RecordSearch.Store
