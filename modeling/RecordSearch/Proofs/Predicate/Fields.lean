import RecordSearch.Predicate.Matching

/-!
# Predicates on a column that is there

A row satisfies a predicate if its column is there and passes the test. Only a range without bounds
takes rows whose column is missing.
-/

namespace RecordSearch

theorem Json.field?_eq_some_iff {row value : Json} {column : String} :
    row.field? column = some value ↔ row.get? column = some value ∧ value.isNull = false := by
  simp [field?, Option.filter_eq_some_iff]

namespace Predicate

variable {column : String} {test : Test} {fold : Bool} {row : Json}

theorem isMatch_of_field? {field : Json} (h : row.field? column = some field) :
    isMatch ⟨column, test, fold⟩ row = test.passes fold field := by
  unfold isMatch
  split
  · rename_i htest
    obtain rfl : test = .between none none := htest
    rfl
  · simp_all
  · simp_all

theorem isMatch_iff (htest : test ≠ .between none none) :
    isMatch ⟨column, test, fold⟩ row = true ↔
      ∃ field, row.field? column = some field ∧ test.passes fold field = true := by
  cases hfield : row.field? column with
  | none =>
      unfold isMatch
      split
      · exact absurd ‹_› htest
      · simp_all
      · simp
  | some field => simp [isMatch_of_field? hfield]

end Predicate

end RecordSearch
