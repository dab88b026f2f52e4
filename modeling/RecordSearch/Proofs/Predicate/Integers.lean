import RecordSearch.Proofs.Number.Rounding
import RecordSearch.Proofs.Predicate.Comparing

/-!
# Integers in predicates

An integer column is compared exactly with signed 64-bit integers as long as it is one itself. A
larger one is compared as a floating point number. This makes no difference either, except where
both sides round to two to the power 63: there the column passes for equal to a smaller bound.
-/

namespace RecordSearch

open Number Number.Binary64

/-- Whether an integer has a place in the signed 64-bit range. -/
def IsSigned (m : Int) : Prop :=
  -9223372036854775808 ≤ m ∧ m ≤ 9223372036854775807

/-- Whether a column can hold an integer: it fits 64 bits, with or without a sign. -/
def IsStored (n : Int) : Prop :=
  -9223372036854775808 ≤ n ∧ n ≤ 18446744073709551615

/-- The columns just beyond the signed range and the bounds at its end that round to one number. -/
def Blurs (n m : Int) : Prop :=
  9223372036854775808 ≤ n ∧ n ≤ 9223372036854776832 ∧
    9223372036854775296 ≤ m ∧ m < 9223372036854775808

instance (n m : Int) : Decidable (Blurs n m) :=
  inferInstanceAs (Decidable (_ ∧ _ ∧ _ ∧ _))

section Compare

variable {n m : Int}

theorem lt_of_blurs (h : Blurs n m) : m < n := by
  unfold Blurs at h
  omega

/-- The place of two to the power 63, to which its neighbours round. -/
theorem landing_of_blurs (h : Blurs n m) : landing n = landing m := by
  obtain ⟨hn, hn', hm, hm'⟩ := h
  have hends : landing 9223372036854775296 = landing 9223372036854776832 := by decide +kernel
  have hlow : landing 9223372036854775296 ≤ landing m := landing_mono hm
  have hmiddle : landing m ≤ landing n := landing_mono (by omega)
  have hhigh : landing n ≤ landing 9223372036854776832 := landing_mono hn'
  omega

/-- On either side of the range that rounds to two to the power 63 the next number is another. -/
theorem landing_lt_of_not_blurs (hn : 9223372036854775808 ≤ n) (hm : m < 9223372036854775808)
    (h : ¬ Blurs n m) : landing m < landing n := by
  by_cases hbelow : m < 9223372036854775296
  · calc landing m
        ≤ landing 9223372036854775295 := landing_mono (by omega)
      _ < landing 9223372036854775808 := by decide +kernel
      _ ≤ landing n := landing_mono hn
  · have hbeyond : 9223372036854776833 ≤ n := by
      unfold Blurs at h
      omega
    calc landing m
        ≤ landing 9223372036854775808 := landing_mono (by omega)
      _ < landing 9223372036854776833 := by decide +kernel
      _ ≤ landing n := landing_mono hbeyond

/-- An integer column is compared exactly, unless it blurs with the bound. -/
theorem compareField_integer (hn : IsStored n) (hm : IsSigned m) (fold : Bool) :
    compareField (.integer n) fold (.integer m) =
      some (if Blurs n m then .eq else compare n m) := by
  by_cases hsigned : n ≤ 9223372036854775807
  · have hblurs : ¬ Blurs n m := by
      unfold Blurs
      omega
    rw [if_neg hblurs]
    simp [compareField, Json.asInt64?, Json.asIntegerIn?, hn.1, hsigned]
  · have hnone : (Json.integer n).asInt64? = none := by
      simp [Json.asInt64?, Json.asIntegerIn?, hsigned]
    rw [compareField_integer_of_none hnone, Json.asFloat?, Option.bind_some, position?_ofInt,
      Option.map_some]
    by_cases hblurs : Blurs n m
    · rw [if_pos hblurs, landing_of_blurs hblurs, Std.compare_self]
    · have hbound : m < 9223372036854775808 := Int.lt_add_one_of_le hm.2
      have hlanding : landing m < landing n :=
        landing_lt_of_not_blurs (by omega) hbound hblurs
      have hlt : m < n := by omega
      rw [if_neg hblurs, Int.compare_eq_gt.2 hlt, Int.compare_eq_gt.2 hlanding]

theorem equals_integer_iff (hn : IsStored n) (hm : IsSigned m) (fold : Bool) :
    equals (.integer n) fold (.integer m) = true ↔ n = m ∨ Blurs n m := by
  rw [equals, compareField_integer hn hm, beq_iff_eq, Option.some_inj]
  split
  · simp_all
  · simp_all

theorem atLeast_integer_iff (hn : IsStored n) (hm : IsSigned m) (fold : Bool) :
    atLeast (.integer n) fold (.integer m) = true ↔ m ≤ n := by
  rw [atLeast, compareField_integer hn hm]
  by_cases hblurs : Blurs n m
  · simp [hblurs, Int.le_of_lt (lt_of_blurs hblurs)]
  · rw [if_neg hblurs]
    rcases Int.lt_trichotomy n m with h | h | h
    · simp [Int.compare_eq_lt.2 h, h]
    · simp [h]
    · simp [Int.compare_eq_gt.2 h, Int.le_of_lt h]

theorem atMost_integer_iff (hn : IsStored n) (hm : IsSigned m) (fold : Bool) :
    atMost (.integer n) fold (.integer m) = true ↔ n ≤ m ∨ Blurs n m := by
  rw [atMost, compareField_integer hn hm]
  by_cases hblurs : Blurs n m
  · simp [hblurs]
  · rw [if_neg hblurs]
    rcases Int.lt_trichotomy n m with h | h | h
    · simp [Int.compare_eq_lt.2 h, Int.le_of_lt h]
    · simp [h]
    · simp [Int.compare_eq_gt.2 h, h, hblurs]

end Compare

namespace Predicate

theorem all_map_integer {bound : Option Int} {p : Value → Bool} :
    (bound.map Value.integer).all p = true ↔ ∀ m ∈ bound, p (.integer m) = true := by
  cases bound <;> simp

/-- **Integers are compared exactly, but for a blur at two to the power 63.** Of a column that holds
an integer of 64 bits, an exact match and a list find it among their integers, and a range finds it
between its bounds. The one difference is that a column just beyond the signed range passes for
equal to the bounds just below, which it exceeds. -/
theorem isMatch_integer_iff {column : String} {row : Json} {n : Int}
    (hrow : row.get? column = some (.integer n)) (hn : IsStored n) (fold : Bool) :
    (∀ m, IsSigned m →
      (isMatch ⟨column, .exact (.integer m), fold⟩ row = true ↔ n = m ∨ Blurs n m)) ∧
    (∀ ms : List Int, (∀ m ∈ ms, IsSigned m) →
      (isMatch ⟨column, .oneOf (ms.map .integer), fold⟩ row = true ↔
        ∃ m ∈ ms, n = m ∨ Blurs n m)) ∧
    ∀ low high : Option Int, (∀ m ∈ low, IsSigned m) → (∀ m ∈ high, IsSigned m) →
      (isMatch ⟨column, .between (low.map .integer) (high.map .integer), fold⟩ row = true ↔
        (∀ m ∈ low, m ≤ n) ∧ ∀ m ∈ high, n ≤ m ∨ Blurs n m) := by
  have hfield : row.field? column = some (.integer n) := Json.field?_eq_some_iff.2 ⟨hrow, rfl⟩
  refine ⟨fun m hm => ?_, fun ms hms => ?_, fun low high hlow hhigh => ?_⟩
  · rw [isMatch_of_field? hfield]
    exact equals_integer_iff hn hm _
  · rw [isMatch_of_field? hfield, Test.passes, List.any_map, List.any_eq_true]
    constructor
    · rintro ⟨m, hm, hequals⟩
      exact ⟨m, hm, (equals_integer_iff hn (hms m hm) fold).1 hequals⟩
    · rintro ⟨m, hm, hequals⟩
      exact ⟨m, hm, (equals_integer_iff hn (hms m hm) fold).2 hequals⟩
  · rw [isMatch_of_field? hfield, Test.passes, Bool.and_eq_true, all_map_integer, all_map_integer]
    apply and_congr
    · exact forall₂_congr fun m hm => atLeast_integer_iff hn (hlow m hm) fold
    · exact forall₂_congr fun m hm => atMost_integer_iff hn (hhigh m hm) fold

def idRow (n : Int) : Json := .object [("id", .integer n)]

/-- The first integer that does not blur with the greatest bound is found beyond it. -/
theorem isMatch_integer_iff_idRow :
    (idRow 9223372036854776833).get? "id" = some (.integer 9223372036854776833) ∧
    IsStored 9223372036854776833 ∧ IsSigned 9223372036854775807 ∧
    isMatch ⟨"id", .exact (.integer 9223372036854775807), false⟩
      (idRow 9223372036854776833) ≠ true ∧
    isMatch ⟨"id", .between (some (.integer 9223372036854775807)) none, false⟩
      (idRow 9223372036854776833) = true := by
  have hrow : (idRow 9223372036854776833).get? "id" = some (.integer 9223372036854776833) := rfl
  have hn : IsStored 9223372036854776833 := by unfold IsStored; decide
  have hm : IsSigned 9223372036854775807 := by unfold IsSigned; decide
  have hlow : ∀ m ∈ some (9223372036854775807 : Int), IsSigned m := by
    rintro _ ⟨⟩
    exact hm
  obtain ⟨hexact, -, hbetween⟩ := isMatch_integer_iff hrow hn false
  refine ⟨hrow, hn, hm, fun hmatch => ?_, ?_⟩
  · exact absurd ((hexact _ hm).1 hmatch) (by decide)
  · exact (hbetween (some 9223372036854775807) none hlow (by simp)).2 (by simp)

/-- The first integer beyond the signed range passes for the last one in it, with which it has
nothing in common but the floating point number. -/
theorem isMatch_beyond_signed :
    (9223372036854775808 : Int) ≠ 9223372036854775807 ∧
    isMatch ⟨"id", .exact (.integer 9223372036854775807), false⟩
      (idRow 9223372036854775808) = true ∧
    isMatch ⟨"id", .oneOf [.integer 9223372036854775807], false⟩
      (idRow 9223372036854775808) = true ∧
    isMatch ⟨"id", .between none (some (.integer 9223372036854775807)), false⟩
      (idRow 9223372036854775808) = true := by
  decide +kernel

end Predicate

end RecordSearch
