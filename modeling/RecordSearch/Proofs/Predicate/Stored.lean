import RecordSearch.Proofs.Calendar.Reading
import RecordSearch.Proofs.Predicate.Comparing
import RecordSearch.Proofs.Predicate.Integers
import RecordSearch.Proofs.Value.UuidText

/-!
# Values that columns hold

A column that holds a value as it is written to JSON is read as that value, and so it compares with
the other values of the type as the value does.
-/

namespace RecordSearch

open Calendar (Instant)

namespace Value

/-- Values that are read back from their JSON: integers of 64 bits, finite numbers, UUIDs of 128
bits, and days and instants of the years that are written with four digits. -/
def IsStored : Value → Prop
  | .text _ => True
  | .integer i => IsSigned i
  | .float x => ∃ negative units, x = .finite negative units
  | .bool _ => True
  | .uuid id => id.IsStored
  | .timestamp t => t.IsStored
  | .date d => d.IsStored

end Value

theorem asInt64?_integer {i : Int} (h : IsSigned i) : (Json.integer i).asInt64? = some i :=
  if_pos h

/-- A column holds the place of the value that was written to it. -/
theorem compareField_toJson {v w : Value} (htype : v.SameType w) (hv : v.IsStored) (fold : Bool) :
    compareField v.toJson fold w = v.order? fold w := by
  cases htype with
  | text a b => exact compareField_text b
  | integer a b => exact compareField_integer_of_some (asInt64?_integer hv) b
  | float a b =>
      obtain ⟨negative, units, rfl⟩ := hv
      rfl
  | bool a b => rfl
  | uuid a b =>
      rw [Value.toJson, compareField_uuid, Json.asText?, Option.bind_some, Uuid.parse?_text hv]
      rfl
  | timestamp a b =>
      rw [Value.toJson, compareField_timestamp, Json.asText?, Option.bind_some,
        Instant.parseStrict?_jsonText hv]
      rfl
  | date a b =>
      rw [Value.toJson, compareField_date, Json.asText?, Option.bind_some,
        Calendar.Date.parse?_text hv]
      rfl

theorem isNull_toJson {v : Value} (h : v.IsStored) : v.toJson.isNull = false := by
  cases v with
  | float x =>
      obtain ⟨negative, units, rfl⟩ := h
      rfl
  | _ => rfl

namespace Predicate

/-- **A stored value compares as itself.** A column that holds a value in its JSON form equals a
value of the same type exactly if the two are equal in the order of the type, and it is between
bounds exactly if the value is. -/
theorem isMatch_stored {column : String} {row : Json} {v w : Value} (htype : v.SameType w)
    (hv : v.IsStored) (hrow : row.get? column = some v.toJson) :
    (isMatch ⟨column, .exact w, false⟩ row = true ↔ v.order? false w = some .eq) ∧
    (isMatch ⟨column, .between (some w) none, false⟩ row = true ↔ w.AtMost false v) ∧
    (isMatch ⟨column, .between none (some w), false⟩ row = true ↔ v.AtMost false w) := by
  have hfield : row.field? column = some v.toJson :=
    Json.field?_eq_some_iff.2 ⟨hrow, isNull_toJson hv⟩
  have hcompare := compareField_toJson htype hv false
  refine ⟨?_, ?_, ?_⟩
  · rw [isMatch_of_field? hfield, Test.passes, Bool.false_and, equals_iff, hcompare]
  · rw [isMatch_of_field? hfield, Test.passes, Option.all_some, Option.all_none, Bool.and_true,
      atLeast_iff, hcompare, Value.atMost_iff_isGE htype]
  · rw [isMatch_of_field? hfield, Test.passes, Option.all_some, Option.all_none, Bool.true_and,
      atMost_iff, hcompare]
    rfl

/-- A leap second with half a second, and the last millisecond before it. -/
def leapSecond : Value := .timestamp ⟨⟨2016, 12, 31⟩, 86399, 1500000000⟩

def lastMillisecond : Value := .timestamp ⟨⟨2016, 12, 31⟩, 86399, 999000000⟩

def momentRow (v : Value) : Json := .object [("at", v.toJson)]

theorem isMatch_stored_leapSecond :
    leapSecond.SameType lastMillisecond ∧ leapSecond.IsStored ∧
    (momentRow leapSecond).get? "at" = some leapSecond.toJson ∧
    isMatch ⟨"at", .between (some lastMillisecond) none, false⟩ (momentRow leapSecond) = true ∧
    isMatch ⟨"at", .exact lastMillisecond, false⟩ (momentRow leapSecond) ≠ true := by
  have htype : leapSecond.SameType lastMillisecond := .timestamp _ _
  have hstored : leapSecond.IsStored :=
    ⟨⟨by decide, by decide, by decide⟩, ⟨by decide, by decide, by decide⟩⟩
  have hrow : (momentRow leapSecond).get? "at" = some leapSecond.toJson := rfl
  obtain ⟨hexact, hlow, -⟩ := isMatch_stored htype hstored hrow
  refine ⟨htype, hstored, hrow, hlow.2 ⟨.lt, by decide, rfl⟩, fun hmatch => ?_⟩
  exact absurd (hexact.1 hmatch) (by decide)

end Predicate

end RecordSearch
