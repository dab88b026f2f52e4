import RecordSearch.Proofs.Predicate.Fields
import RecordSearch.Proofs.Value.Order

/-!
# Comparing a column with values

A column has one place among all values of a type, read from its text or from its number, and
comparing it with a value is comparing places. A column that passes a bound therefore passes every
weaker one.
-/

namespace RecordSearch

open Calendar (Date Instant)
open Number (Binary64)
open Number.Binary64 (landing)

section Places

variable {field : Json} {fold : Bool}

theorem bind_bind_some {α β γ : Type} (x : Option α) (read : α → Option β) (f : β → γ) :
    (x.bind fun a => (read a).bind fun b => some (f b)) = (x.bind read).map f := by
  simp only [Option.map_eq_bind, Option.bind_assoc, Function.comp_def]

theorem compareField_text (s : String) :
    compareField field fold (.text s) =
      (field.asText?.map (Value.textKey fold)).map (compare · (Value.textKey fold s)) := by
  cases field <;> cases fold <;> rfl

theorem compareField_bool (b : Bool) :
    compareField field fold (.bool b) = field.asBool?.map (compare · b) := by
  cases field <;> rfl

theorem compareField_uuid (id : Uuid) :
    compareField field fold (.uuid id) =
      ((field.asText?.bind Uuid.parse?).map Uuid.bits).map (compare · id.bits) := by
  rw [Option.map_map]
  exact bind_bind_some field.asText? Uuid.parse? fun actual => compare actual.bits id.bits

theorem compareField_timestamp (t : Instant) :
    compareField field fold (.timestamp t) =
      (field.asText?.bind Instant.parseStrict?).map (compare · t) :=
  bind_bind_some field.asText? Instant.parseStrict? (compare · t)

theorem compareField_date (d : Date) :
    compareField field fold (.date d) = (field.asText?.bind Date.parse?).map (compare · d) :=
  bind_bind_some field.asText? Date.parse? (compare · d)

theorem compare?_eq_map {x : Binary64} {place : Int} (h : x.position? = some place)
    (y : Binary64) : y.compare? x = y.position?.map (compare · place) := by
  rw [Binary64.compare?, h]
  cases y.position? <;> rfl

theorem compareField_float {x : Binary64} {place : Int} (h : x.position? = some place) :
    compareField field fold (.float x) =
      (field.asFloat?.bind Binary64.position?).map (compare · place) := by
  rw [compareField, Option.map_bind]
  exact congrArg field.asFloat?.bind (funext (compare?_eq_map h))

theorem compareField_integer_of_some {n : Int} (h : field.asInt64? = some n) (m : Int) :
    compareField field fold (.integer m) = some (compare n m) := by
  rw [compareField, h]

/-- A number that is no signed integer is compared by its place on the line of units. -/
theorem compareField_integer_of_none (h : field.asInt64? = none) (m : Int) :
    compareField field fold (.integer m) =
      (field.asFloat?.bind Binary64.position?).map (compare · (landing m)) := by
  rw [compareField, h, Option.map_bind]
  exact congrArg field.asFloat?.bind (funext (compare?_eq_map (Binary64.position?_ofInt m)))

/-- A column has one place among the values of a type, and the order of two values is that of their
places. -/
theorem exists_places {v w : Value} {o : Ordering} (h : v.order? fold w = some o) (field : Json) :
    ∃ (α : Type) (_ : Ord α) (_ : Std.TransOrd α) (place : Option α) (a b : α),
      compareField field fold v = place.map (compare · a) ∧
        compareField field fold w = place.map (compare · b) ∧
        (o.isLE = true → (compare a b).isLE = true) := by
  cases Value.sameType_of_order? h with
  | text a b =>
      obtain rfl := Option.some.inj h
      exact ⟨_, _, inferInstance, _, _, _, compareField_text a, compareField_text b, id⟩
  | integer a b =>
      obtain rfl := Option.some.inj h
      cases hfield : field.asInt64? with
      | some n =>
          exact ⟨Int, _, inferInstance, some n, a, b, compareField_integer_of_some hfield a,
            compareField_integer_of_some hfield b, id⟩
      | none =>
          -- Both values are rounded now, which may tie them but does not turn them round.
          refine ⟨Int, _, inferInstance, _, _, _, compareField_integer_of_none hfield a,
            compareField_integer_of_none hfield b, ?_⟩
          rw [Std.isLE_compare, Std.isLE_compare]
          exact Binary64.landing_mono
  | float a b =>
      obtain ⟨x, y, ha, hb, rfl⟩ := Binary64.exists_positions_of_compare? h
      exact ⟨_, _, inferInstance, _, _, _, compareField_float ha, compareField_float hb, id⟩
  | bool a b =>
      obtain rfl := Option.some.inj h
      exact ⟨_, _, inferInstance, _, _, _, compareField_bool a, compareField_bool b, id⟩
  | uuid a b =>
      obtain rfl := Option.some.inj h
      exact ⟨_, _, inferInstance, _, _, _, compareField_uuid a, compareField_uuid b, id⟩
  | timestamp a b =>
      obtain rfl := Option.some.inj h
      exact ⟨_, _, inferInstance, _, _, _, compareField_timestamp a, compareField_timestamp b, id⟩
  | date a b =>
      obtain rfl := Option.some.inj h
      exact ⟨_, _, inferInstance, _, _, _, compareField_date a, compareField_date b, id⟩

end Places

section Bounds

variable {field : Json} {fold : Bool} {v w : Value}

theorem equals_iff : equals field fold v = true ↔ compareField field fold v = some .eq :=
  beq_iff_eq

theorem atLeast_iff :
    atLeast field fold v = true ↔ ∃ o, compareField field fold v = some o ∧ o.isGE = true := by
  unfold atLeast
  cases compareField field fold v with
  | none => simp
  | some o => cases o <;> simp

theorem atMost_iff :
    atMost field fold v = true ↔ ∃ o, compareField field fold v = some o ∧ o.isLE = true := by
  unfold atMost
  cases compareField field fold v with
  | none => simp
  | some o => cases o <;> simp

theorem atLeast_of_atMost (hvw : v.AtMost fold w) (h : atLeast field fold w = true) :
    atLeast field fold v = true := by
  obtain ⟨o, ho, hle⟩ := hvw
  obtain ⟨α, _, _, place, a, b, hv, hw, hab⟩ := exists_places ho field
  rw [atLeast_iff, hw] at h
  obtain ⟨_, hplace, hxb⟩ := h
  obtain ⟨x, rfl, rfl⟩ := Option.map_eq_some_iff.1 hplace
  have hba : (compare b a).isGE = true := Std.OrientedCmp.isGE_iff_isLE.2 (hab hle)
  exact atLeast_iff.2 ⟨compare x a, hv, Std.TransCmp.isGE_trans hxb hba⟩

theorem atMost_of_atMost (hvw : v.AtMost fold w) (h : atMost field fold v = true) :
    atMost field fold w = true := by
  obtain ⟨o, ho, hle⟩ := hvw
  obtain ⟨α, _, _, place, a, b, hv, hw, hab⟩ := exists_places ho field
  rw [atMost_iff, hv] at h
  obtain ⟨_, hplace, hxa⟩ := h
  obtain ⟨x, rfl, rfl⟩ := Option.map_eq_some_iff.1 hplace
  exact atMost_iff.2 ⟨compare x b, hw, Std.TransCmp.isLE_trans hxa (hab hle)⟩

end Bounds

end RecordSearch
