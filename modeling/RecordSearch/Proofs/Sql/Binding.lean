import RecordSearch.Proofs.Sql.Agreement

/-!
# Values and their places

Compiling predicates binds their values in the order in which they stand, and refers to them by
consecutive places. The condition of a predicate depends on how many values were bound before, and
on what kind of predicate it is, but on none of the values and on none of the keys.
-/

namespace RecordSearch

/-- Tests that differ in nothing but values: of one kind, with as many values, and with text in the
same places if this decides how the values are compared. -/
inductive Test.Alike : Test → Test → Prop
  | exact {value other : Value} (h : value.isText = other.isText) :
      Alike (.exact value) (.exact other)
  | like (text other : String) (mode otherMode : LikeMode) :
      Alike (.like text mode) (.like other otherMode)
  | oneOf {values others : List Value} (h : values.length = others.length) :
      Alike (.oneOf values) (.oneOf others)
  | between {min max otherMin otherMax : Option Value} (hmin : min.isSome = otherMin.isSome)
      (hmax : max.isSome = otherMax.isSome) : Alike (.between min max) (.between otherMin otherMax)

theorem Test.Alike.length_bound {test other : Test} (h : test.Alike other) :
    test.bound.length = other.bound.length := by
  cases h with
  | exact | like => rfl
  | oneOf hlength => exact hlength
  | @between min max otherMin otherMax hmin hmax =>
      have hlength : ∀ {one two : Option Value}, one.isSome = two.isSome →
          one.toList.length = two.toList.length := by
        intro one two h
        cases one <;> cases two <;> simp_all
      rw [bound, bound, List.length_append, List.length_append, hlength hmin, hlength hmax]

structure Predicate.Alike (p q : Predicate) : Prop where
  column : p.column = q.column
  fold : p.fold = q.fold
  test : p.test.Alike q.test

namespace Sql

section Bind

variable (b : Bindings) (key column : String) (fold : Bool)

theorem fst_bindOperand (value : Value) :
    (bindOperand b key value fold).1 = foldCase (.parameter (b.size + 1)) fold := rfl

theorem fst_bindItems (index : Nat) (items : List Value) :
    (bindItems column fold index b items).1 =
      (List.range' (b.size + 1) items.length).map fun place =>
        foldCase (.parameter place) fold := by
  induction items generalizing index b with
  | nil => rfl
  | cons value rest ih =>
      have hsize : (bindOperand b (column ++ "__" ++ Number.decimal index) value fold).2.size =
          b.size + 1 := b.size_bindAll [(column ++ "__" ++ Number.decimal index, value)]
      rw [bindItems]
      simp only [ih, hsize, fst_bindOperand, List.length_cons, List.range'_succ, List.map_cons]

theorem fst_bindBound (bound : Option Value) :
    (bindBound b key fold bound).1 =
      bound.map fun _ => foldCase (.parameter (b.size + 1)) fold := by
  cases bound <;> rfl

theorem size_bindBound (bound : Option Value) :
    (bindBound b key fold bound).2.size = b.size + bound.toList.length := by
  rw [snd_bindBound, Bindings.size_bindAll, List.length_map]

end Bind

/-! ### Places -/

def Operand.places : Operand → List Nat
  | .column _ => []
  | .parameter place => [place]
  | .null => []
  | .lower inner => inner.places

def Condition.places : Condition → List Nat
  | .equal left right => left.places ++ right.places
  | .atLeast left right => left.places ++ right.places
  | .atMost left right => left.places ++ right.places
  | .like left right => left.places ++ right.places
  | .isIn left items => left.places ++ items.flatMap Operand.places
  | .isNull operand => operand.places
  | .both left right => left.places ++ right.places
  | .either left right => left.places ++ right.places

@[simp]
theorem places_foldCase (operand : Operand) (fold : Bool) :
    (foldCase operand fold).places = operand.places := by
  cases fold <;> rfl

section Condition

variable (b : Bindings) (column : String) (fold : Bool)

theorem places_condition (test : Test) :
    (condition column fold b test).1.places = List.range' (b.size + 1) test.bound.length := by
  cases test with
  | exact value => simp [condition, fst_bindOperand, Condition.places, Operand.places, Test.bound]
  | like text mode =>
      simp [condition, fst_bindOperand, Condition.places, Operand.places, Test.bound]
  | oneOf values =>
      cases values with
      | nil => rfl
      | cons value rest =>
          simp only [condition, fst_bindItems, Condition.places, places_foldCase, Operand.places,
            List.nil_append, List.flatMap_map, List.flatMap_singleton', Test.bound]
  | between min max =>
      have hmin := size_bindBound b (column ++ "__min") fold min
      cases min <;> cases max <;>
        simp [condition, fst_bindBound, Condition.places, Operand.places, Test.bound, hmin,
          List.range'_succ]

/-- No value and no key has a trace in a condition. -/
theorem condition_eq_of_alike {test other : Test} (h : test.Alike other) {c : Bindings}
    (hsize : b.size = c.size) :
    (condition column fold b test).1 = (condition column fold c other).1 := by
  cases h with
  | exact htext => simp only [condition, fst_bindOperand, htext, hsize]
  | like text other mode otherMode => simp only [condition, fst_bindOperand, hsize]
  | @oneOf values others hlength =>
      cases values with
      | nil =>
          obtain rfl : others = [] := List.eq_nil_of_length_eq_zero hlength.symm
          rfl
      | cons value rest =>
          obtain ⟨other, rest', rfl⟩ := List.exists_cons_of_length_eq_add_one hlength.symm
          simp only [condition, fst_bindItems, hsize, hlength]
  | @between min max otherMin otherMax hmin hmax =>
      have hone := size_bindBound b (column ++ "__min") fold min
      have htwo := size_bindBound c (column ++ "__min") fold otherMin
      cases min <;> cases otherMin <;> cases max <;> cases otherMax <;>
        simp_all [condition, fst_bindBound]

end Condition

/-! ### Lists of predicates -/

def boundValues (predicates : List Predicate) : List Value :=
  predicates.flatMap (·.test.bound)

theorem values_allRequests (predicates : List Predicate) :
    (Predicate.allRequests predicates).map (·.2) = boundValues predicates := by
  simp only [Predicate.allRequests, boundValues, List.map_flatMap, Test.values_requests]

/-- The conditions of predicates refer to the places of their values, in order and to each of them
once. -/
theorem places_conditionsAfter (b : Bindings) (predicates : List Predicate) :
    (conditionsAfter b predicates).flatMap Condition.places =
      List.range' (b.size + 1) (boundValues predicates).length := by
  induction predicates generalizing b with
  | nil => rfl
  | cons p rest ih =>
      have hsize : (b.bindAll (p.test.requests p.column)).size + 1 =
          b.size + 1 + p.test.bound.length := by
        rw [Bindings.size_bindAll, Test.length_requests]
        omega
      calc (conditionsAfter b (p :: rest)).flatMap Condition.places
          = List.range' (b.size + 1) p.test.bound.length ++
              List.range' (b.size + 1 + p.test.bound.length) (boundValues rest).length := by
            rw [conditionsAfter, List.flatMap_cons, places_condition, ih, hsize]
        _ = List.range' (b.size + 1) (boundValues (p :: rest)).length := by
            rw [List.range'_append_1]
            simp [boundValues]

theorem conditionsAfter_eq_of_alike {predicates others : List Predicate}
    (halike : List.Forall₂ Predicate.Alike predicates others) {b c : Bindings}
    (hsize : b.size = c.size) : conditionsAfter b predicates = conditionsAfter c others := by
  induction halike generalizing b c with
  | nil => rfl
  | @cons p q rest others hpq halike ih =>
      have hfirst : (condition p.column p.fold b p.test).1 =
          (condition q.column q.fold c q.test).1 := by
        rw [← hpq.column, ← hpq.fold]
        exact condition_eq_of_alike b p.column p.fold hpq.test hsize
      have hnext : (b.bindAll (p.test.requests p.column)).size =
          (c.bindAll (q.test.requests q.column)).size := by
        rw [Bindings.size_bindAll, Bindings.size_bindAll, Test.length_requests,
          Test.length_requests, hsize, hpq.test.length_bound]
      rw [conditionsAfter, conditionsAfter, hfirst, ih hnext]

theorem fault?_of_alike {predicates others : List Predicate}
    (halike : List.Forall₂ Predicate.Alike predicates others)
    (hnames : ∀ p ∈ predicates, Name.fault? p.column = none) :
    ∀ q ∈ others, Name.fault? q.column = none := by
  induction halike with
  | nil => simp
  | cons hpq _ ih =>
      obtain ⟨hname, hrest⟩ := List.forall_mem_cons.1 hnames
      exact List.forall_mem_cons.2 ⟨hpq.column ▸ hname, ih hrest⟩

end Sql

end RecordSearch
