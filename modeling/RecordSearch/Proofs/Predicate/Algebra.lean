import RecordSearch.Proofs.Predicate.Comparing

/-!
# The algebra of predicates

A list is the union of the exact matches of its values, an exact match is the range from a value to
itself, and two ranges are together the range between the larger of their lower bounds and the
smaller of their upper bounds.
-/

namespace RecordSearch

open Calendar (Date Instant)
open Number (Binary64)

theorem compareField_fold_isText (field : Json) (fold : Bool) (value : Value) :
    compareField field (fold && value.isText) value = compareField field fold value := by
  cases value with
  | text s => rw [Value.isText, Bool.and_true]
  | _ => rfl

namespace Predicate

section Rows

variable {column : String} {fold : Bool} {row : Json}

theorem isMatch_exact_iff {value : Value} :
    isMatch ⟨column, .exact value, fold⟩ row = true ↔
      ∃ field ∈ row.field? column, compareField field fold value = some .eq := by
  rw [isMatch_iff (by simp)]
  simp only [Test.passes, equals_iff, compareField_fold_isText, Option.mem_def]

theorem isMatch_oneOf_iff {values : List Value} :
    isMatch ⟨column, .oneOf values, fold⟩ row = true ↔
      ∃ value ∈ values, isMatch ⟨column, .exact value, fold⟩ row = true := by
  rw [isMatch_iff (by simp)]
  simp only [isMatch_exact_iff, Test.passes, List.any_eq_true, equals_iff, Option.mem_def]
  constructor
  · rintro ⟨field, hfield, value, hvalue, heq⟩
    exact ⟨value, hvalue, field, hfield, heq⟩
  · rintro ⟨value, hvalue, field, hfield, heq⟩
    exact ⟨field, hfield, value, hvalue, heq⟩

theorem isMatch_exact_eq_between (value : Value) :
    isMatch ⟨column, .exact value, fold⟩ row =
      isMatch ⟨column, .between (some value) (some value), fold⟩ row := by
  cases hfield : row.field? column with
  | none => simp [isMatch, hfield]
  | some field =>
      rw [isMatch_of_field? hfield, isMatch_of_field? hfield, Test.passes, Test.passes,
        equals, compareField_fold_isText, Option.all_some, Option.all_some, atLeast, atMost]
      cases compareField field fold value with
      | none => rfl
      | some o => cases o <;> rfl

/-- Whether the column is there and at least a value. -/
def Above (column : String) (fold : Bool) (row : Json) (value : Value) : Prop :=
  ∃ field ∈ row.field? column, atLeast field fold value = true

/-- Whether the column is there and at most a value. -/
def Below (column : String) (fold : Bool) (row : Json) (value : Value) : Prop :=
  ∃ field ∈ row.field? column, atMost field fold value = true

/-- Each bound of a range is a condition of its own, and one that is absent is none. -/
theorem isMatch_between_iff {low high : Option Value} :
    isMatch ⟨column, .between low high, fold⟩ row = true ↔
      (∀ v ∈ low, Above column fold row v) ∧ ∀ v ∈ high, Below column fold row v := by
  cases hfield : row.field? column with
  | none => cases low <;> cases high <;> simp [isMatch, hfield, Above, Below]
  | some field =>
      rw [isMatch_of_field? hfield, Test.passes, Bool.and_eq_true]
      cases low <;> cases high <;> simp [hfield, Above, Below]

theorem above_of_atMost {v w : Value} (hvw : v.AtMost fold w) (h : Above column fold row w) :
    Above column fold row v := by
  obtain ⟨field, hfield, hw⟩ := h
  exact ⟨field, hfield, atLeast_of_atMost hvw hw⟩

theorem below_of_atMost {v w : Value} (hvw : v.AtMost fold w) (h : Below column fold row v) :
    Below column fold row w := by
  obtain ⟨field, hfield, hv⟩ := h
  exact ⟨field, hfield, atMost_of_atMost hvw hv⟩

/-- A range with a lower bound that is raised, or an upper bound that is lowered, has no new rows.
-/
theorem isMatch_between_of_tighter {low low' high high' : Option Value}
    (hlow : ∀ v ∈ low, ∃ w ∈ low', v.AtMost fold w)
    (hhigh : ∀ v ∈ high, ∃ w ∈ high', w.AtMost fold v)
    (h : isMatch ⟨column, .between low' high', fold⟩ row = true) :
    isMatch ⟨column, .between low high, fold⟩ row = true := by
  obtain ⟨habove, hbelow⟩ := isMatch_between_iff.1 h
  refine isMatch_between_iff.2 ⟨fun v hv => ?_, fun v hv => ?_⟩
  · obtain ⟨w, hw, hvw⟩ := hlow v hv
    exact above_of_atMost hvw (habove w hw)
  · obtain ⟨w, hw, hwv⟩ := hhigh v hv
    exact below_of_atMost hwv (hbelow w hw)

end Rows

/-- Bounds of one type, the absent ones aside, and none of them `nan`. -/
def OneType (bounds : List (Option Value)) : Prop :=
  ∀ v, some v ∈ bounds → v ≠ .float .nan ∧ ∀ w, some w ∈ bounds → Value.SameType v w

theorem oneType_of_texts {bounds : List (Option Value)}
    (h : ∀ v, some v ∈ bounds → ∃ s, v = .text s) : OneType bounds := by
  intro v hv
  obtain ⟨s, rfl⟩ := h v hv
  refine ⟨by simp, fun w hw => ?_⟩
  obtain ⟨t, rfl⟩ := h w hw
  exact .text s t

theorem OneType.exists_order? {bounds : List (Option Value)} (h : OneType bounds) (fold : Bool)
    {a b : Option Value} (ha : a ∈ bounds) (hb : b ∈ bounds) :
    ∀ v ∈ a, ∀ w ∈ b, ∃ o, v.order? fold w = some o := by
  rintro v rfl w rfl
  exact Value.exists_order? ((h v ha).2 w hb) (h v ha).1 (h w hb).1

/-- A condition holds of two optional values if it holds of the one that implies the other. -/
theorem forall_mem_merge {pick : Value → Value → Value} {a b : Option Value} {P : Value → Prop}
    (h : ∀ v ∈ a, ∀ w ∈ b, (pick v w = w ∧ (P w → P v)) ∨ (pick v w = v ∧ (P v → P w))) :
    (∀ u ∈ Option.merge pick a b, P u) ↔ (∀ v ∈ a, P v) ∧ ∀ w ∈ b, P w := by
  cases a with
  | none => cases b <;> simp
  | some v =>
      cases b with
      | none => simp
      | some w =>
          simp only [Option.merge_some_some, Option.mem_some_iff, forall_eq']
          rcases h v rfl w rfl with ⟨hpick, himp⟩ | ⟨hpick, himp⟩
          · rw [hpick]
            exact ⟨fun hw => ⟨himp hw, hw⟩, And.right⟩
          · rw [hpick]
            exact ⟨fun hv => ⟨hv, himp hv⟩, And.left⟩

theorem isMatch_between_and_iff {column : String} {fold : Bool} {row : Json}
    {a b c d : Option Value} (h : OneType [a, b, c, d]) :
    isMatch ⟨column, .between a b, fold⟩ row = true ∧
        isMatch ⟨column, .between c d, fold⟩ row = true ↔
      isMatch ⟨column, .between (Option.merge (Value.larger fold) a c)
        (Option.merge (Value.smaller fold) b d), fold⟩ row = true := by
  have hlow : (∀ u ∈ Option.merge (Value.larger fold) a c, Above column fold row u) ↔
      (∀ v ∈ a, Above column fold row v) ∧ ∀ w ∈ c, Above column fold row w := by
    refine forall_mem_merge fun v hv w hw => ?_
    obtain ⟨o, ho⟩ := h.exists_order? fold (a := a) (b := c) (by simp) (by simp) v hv w hw
    exact (Value.larger_cases ho).imp (And.imp_right above_of_atMost)
      (And.imp_right above_of_atMost)
  have hhigh : (∀ u ∈ Option.merge (Value.smaller fold) b d, Below column fold row u) ↔
      (∀ v ∈ b, Below column fold row v) ∧ ∀ w ∈ d, Below column fold row w := by
    refine forall_mem_merge fun v hv w hw => ?_
    obtain ⟨o, ho⟩ := h.exists_order? fold (a := b) (b := d) (by simp) (by simp) v hv w hw
    exact (Value.smaller_cases ho).imp (And.imp_right below_of_atMost)
      (And.imp_right below_of_atMost)
  rw [isMatch_between_iff, isMatch_between_iff, isMatch_between_iff, hlow, hhigh]
  exact and_and_and_comm

/-- **The algebra of predicates.** Of every row, a list of values matches if one of them matches
exactly; it does not matter in which order or how often they stand there, and no row matches the
empty list. An exact match is the range from the value to itself. Two ranges with bounds of one type
both match if the range between the larger lower bound and the smaller upper bound does, and a range
loses rows only if its bounds move towards each other. -/
theorem isMatch_algebra (column : String) (fold : Bool) (row : Json) :
    (∀ values, isMatch ⟨column, .oneOf values, fold⟩ row = true ↔
      ∃ value ∈ values, isMatch ⟨column, .exact value, fold⟩ row = true) ∧
    (∀ values others : List Value, (∀ v, v ∈ values ↔ v ∈ others) →
      isMatch ⟨column, .oneOf values, fold⟩ row = isMatch ⟨column, .oneOf others, fold⟩ row) ∧
    isMatch ⟨column, .oneOf [], fold⟩ row = false ∧
    (∀ value, isMatch ⟨column, .exact value, fold⟩ row =
      isMatch ⟨column, .between (some value) (some value), fold⟩ row) ∧
    (∀ a b c d, OneType [a, b, c, d] →
      (isMatch ⟨column, .between a b, fold⟩ row = true ∧
          isMatch ⟨column, .between c d, fold⟩ row = true ↔
        isMatch ⟨column, .between (Option.merge (Value.larger fold) a c)
          (Option.merge (Value.smaller fold) b d), fold⟩ row = true)) ∧
    ∀ low low' high high' : Option Value, (∀ v ∈ low, ∃ w ∈ low', v.AtMost fold w) →
      (∀ v ∈ high, ∃ w ∈ high', w.AtMost fold v) →
      isMatch ⟨column, .between low' high', fold⟩ row = true →
      isMatch ⟨column, .between low high, fold⟩ row = true := by
  refine ⟨fun _ => isMatch_oneOf_iff, fun values others hsame => ?_, ?_, isMatch_exact_eq_between,
    fun _ _ _ _ => isMatch_between_and_iff, fun _ _ _ _ => isMatch_between_of_tighter⟩
  · rw [Bool.eq_iff_iff, isMatch_oneOf_iff, isMatch_oneOf_iff]
    simp only [hsame]
  · rw [← Bool.not_eq_true, isMatch_oneOf_iff]
    simp

def nameRow (name : String) : Json := .object [("name", .string name)]

/-- Two ranges of names without case. The capital L is above the small k, and the second range has
the only upper bound. -/
theorem isMatch_algebra_nameRow :
    OneType [some (.text "k"), none, some (.text "L"), some (.text "N")] ∧
    isMatch ⟨"name", .between (some (.text "k")) none, true⟩ (nameRow "mallory") = true ∧
    isMatch ⟨"name", .between (some (.text "L")) (some (.text "N")), true⟩
      (nameRow "mallory") = true ∧
    isMatch ⟨"name", .between (Option.merge (Value.larger true) (some (.text "k"))
      (some (.text "L"))) (Option.merge (Value.smaller true) none (some (.text "N"))), true⟩
      (nameRow "mallory") = true ∧
    Value.larger true (.text "k") (.text "L") = .text "L" := by
  have hbounds : OneType [some (.text "k"), none, some (.text "L"), some (.text "N")] :=
    oneType_of_texts (by simp)
  have hsecond : isMatch ⟨"name", .between (some (.text "L")) (some (.text "N")), true⟩
      (nameRow "mallory") = true := by
    decide +kernel
  have hraised : (Value.text "k").AtMost true (.text "L") := ⟨.lt, by decide +kernel, rfl⟩
  obtain ⟨-, -, -, -, htogether, htighter⟩ := isMatch_algebra "name" true (nameRow "mallory")
  have hfirst : isMatch ⟨"name", .between (some (.text "k")) none, true⟩
      (nameRow "mallory") = true :=
    htighter _ _ _ _ (by simpa using hraised) (by simp) hsecond
  exact ⟨hbounds, hfirst, hsecond, (htogether _ _ _ _ hbounds).1 ⟨hfirst, hsecond⟩,
    by decide +kernel⟩

end Predicate

end RecordSearch
