import RecordSearch.Proofs.Number.Rounding
import RecordSearch.Text.LowerCase
import RecordSearch.Value

/-!
# The order of values

Two values of one type have an order: texts by their characters, or by those of their lower case
where case is disregarded, numbers and dates by their size. Only `nan` has none. The order tells
which of two bounds is the larger and which is the smaller.
-/

namespace RecordSearch

open Calendar (Date Instant)
open Number (Binary64)

namespace Calendar

instance : Ord Date := ⟨Date.order⟩

instance : Std.TransOrd Date :=
  inferInstanceAs (Std.TransCmp (compareLex (compareOn Date.year)
    (compareLex (compareOn Date.month) (compareOn Date.day))))

instance : Ord Instant := ⟨Instant.order⟩

instance : Std.TransOrd Instant :=
  inferInstanceAs (Std.TransCmp (compareLex (compareOn Instant.date)
    (compareLex (compareOn Instant.second) (compareOn Instant.nano))))

end Calendar

namespace Number.Binary64

theorem compare?_swap (a b : Binary64) : b.compare? a = (a.compare? b).map Ordering.swap := by
  unfold compare?
  cases a.position? with
  | none => cases b.position? <;> rfl
  | some x =>
      cases b.position? with
      | none => rfl
      | some y => exact congrArg some Std.OrientedCmp.eq_swap

theorem exists_position? {a : Binary64} (h : a ≠ .nan) : ∃ x, a.position? = some x := by
  cases a with
  | nan => exact absurd rfl h
  | infinite negative => exact ⟨_, rfl⟩
  | finite negative units => exact ⟨_, rfl⟩

theorem exists_positions_of_compare? {a b : Binary64} {o : Ordering} (h : a.compare? b = some o) :
    ∃ x y, a.position? = some x ∧ b.position? = some y ∧ compare x y = o := by
  unfold compare? at h
  split at h
  · rename_i x y ha hb
    exact ⟨x, y, ha, hb, Option.some.inj h⟩
  · cases h

end Number.Binary64

namespace Value

inductive SameType : Value → Value → Prop
  | text (a b : String) : SameType (.text a) (.text b)
  | integer (a b : Int) : SameType (.integer a) (.integer b)
  | float (a b : Binary64) : SameType (.float a) (.float b)
  | bool (a b : Bool) : SameType (.bool a) (.bool b)
  | uuid (a b : Uuid) : SameType (.uuid a) (.uuid b)
  | timestamp (a b : Instant) : SameType (.timestamp a) (.timestamp b)
  | date (a b : Date) : SameType (.date a) (.date b)

/-- A text as it is compared, with case or without. -/
def textKey (fold : Bool) (s : String) : String :=
  if fold then Text.lowerCase s else s

/-- The order of two values of one type, with case disregarded in texts when `fold` is set. -/
def order? (fold : Bool) : Value → Value → Option Ordering
  | .text a, .text b => some (compare (textKey fold a) (textKey fold b))
  | .integer a, .integer b => some (compare a b)
  | .float a, .float b => a.compare? b
  | .bool a, .bool b => some (compare a b)
  | .uuid a, .uuid b => some (compare a.bits b.bits)
  | .timestamp a, .timestamp b => some (compare a b)
  | .date a, .date b => some (compare a b)
  | _, _ => none

/-- Whether a value is not above another of its type. -/
def AtMost (fold : Bool) (v w : Value) : Prop :=
  ∃ o, v.order? fold w = some o ∧ o.isLE = true

/-- The larger of two values, the first one if they are equal. -/
def larger (fold : Bool) (v w : Value) : Value :=
  if v.order? fold w = some .lt then w else v

/-- The smaller of two values, the first one if they are equal. -/
def smaller (fold : Bool) (v w : Value) : Value :=
  if v.order? fold w = some .gt then w else v

section Order

variable {fold : Bool} {v w : Value} {o : Ordering}

theorem sameType_of_order? (h : v.order? fold w = some o) : SameType v w := by
  unfold order? at h
  split at h
  · exact .text _ _
  · exact .integer _ _
  · exact .float _ _
  · exact .bool _ _
  · exact .uuid _ _
  · exact .timestamp _ _
  · exact .date _ _
  · cases h

theorem order?_swap (h : SameType v w) : w.order? fold v = (v.order? fold w).map Ordering.swap := by
  cases h with
  | float a b => exact Binary64.compare?_swap a b
  | text a b => exact congrArg some Std.OrientedCmp.eq_swap
  | integer a b => exact congrArg some Std.OrientedCmp.eq_swap
  | bool a b => exact congrArg some Std.OrientedCmp.eq_swap
  | uuid a b => exact congrArg some Std.OrientedCmp.eq_swap
  | timestamp a b => exact congrArg some Std.OrientedCmp.eq_swap
  | date a b => exact congrArg some Std.OrientedCmp.eq_swap

theorem exists_order? (h : SameType v w) (hv : v ≠ .float .nan) (hw : w ≠ .float .nan) :
    ∃ o, v.order? fold w = some o := by
  cases h with
  | float a b =>
      obtain ⟨x, hx⟩ := Binary64.exists_position? fun h => hv (congrArg _ h)
      obtain ⟨y, hy⟩ := Binary64.exists_position? fun h => hw (congrArg _ h)
      exact ⟨_, Binary64.compare?_of_position? hx hy⟩
  | _ => exact ⟨_, rfl⟩

theorem atMost_iff_isGE (h : SameType v w) :
    w.AtMost fold v ↔ ∃ o, v.order? fold w = some o ∧ o.isGE = true := by
  rw [AtMost, order?_swap h]
  cases v.order? fold w with
  | none => simp
  | some o => simp

theorem atMost_of_isGE (h : v.order? fold w = some o) (ho : o.isGE = true) : w.AtMost fold v :=
  (atMost_iff_isGE (sameType_of_order? h)).2 ⟨o, h, ho⟩

theorem larger_cases (h : v.order? fold w = some o) :
    (larger fold v w = w ∧ v.AtMost fold w) ∨ (larger fold v w = v ∧ w.AtMost fold v) := by
  unfold larger
  cases o with
  | lt => exact Or.inl ⟨if_pos h, _, h, rfl⟩
  | eq => exact Or.inr ⟨if_neg (by simp [h]), atMost_of_isGE h rfl⟩
  | gt => exact Or.inr ⟨if_neg (by simp [h]), atMost_of_isGE h rfl⟩

theorem smaller_cases (h : v.order? fold w = some o) :
    (smaller fold v w = w ∧ w.AtMost fold v) ∨ (smaller fold v w = v ∧ v.AtMost fold w) := by
  unfold smaller
  cases o with
  | gt => exact Or.inl ⟨if_pos h, atMost_of_isGE h rfl⟩
  | lt => exact Or.inr ⟨if_neg (by simp [h]), _, h, rfl⟩
  | eq => exact Or.inr ⟨if_neg (by simp [h]), _, h, rfl⟩

end Order

end Value

end RecordSearch
