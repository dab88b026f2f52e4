import RecordSearch.Sql.Condition

/-!
# What predicates ask for

Compiling a predicate binds values, each under a key that it asks for, and nothing else. What is
known of bindings one after another therefore holds of everything that is compiled: the values stand
in the order in which they are asked for, after those that were bound before.
-/

namespace RecordSearch

namespace Bindings

/-- The bindings after some more values have been bound, each with the key that it is asked for
under. -/
def bindAll (b : Bindings) (asked : List (String × Value)) : Bindings :=
  asked.foldl (fun b (key, value) => (b.bind key value).2) b

/-- What bindings become when values are bound after those that are there. -/
def Extends (b : Bindings) (values : List Value) (b' : Bindings) : Prop :=
  ∃ added, b'.entries = b.entries ++ added ∧ added.map (·.2) = values

variable {b c : Bindings} {values : List Value}

theorem Extends.prefix_entries (h : b.Extends values c) : b.entries <+: c.entries := by
  obtain ⟨added, hadded, -⟩ := h
  exact ⟨added, hadded.symm⟩

theorem Extends.values_eq (h : b.Extends values c) : c.values = b.values ++ values := by
  obtain ⟨added, hadded, rfl⟩ := h
  rw [Bindings.values, hadded, List.map_append]
  rfl

theorem length_values (b : Bindings) : b.values.length = b.size :=
  List.length_map _

theorem Extends.size (h : b.Extends values c) : c.size = b.size + values.length := by
  rw [← length_values, h.values_eq, List.length_append, length_values]

theorem bindAll_append (b : Bindings) (asked later : List (String × Value)) :
    b.bindAll (asked ++ later) = (b.bindAll asked).bindAll later :=
  List.foldl_append

theorem extends_bindAll (b : Bindings) (asked : List (String × Value)) :
    b.Extends (asked.map (·.2)) (b.bindAll asked) := by
  induction asked generalizing b with
  | nil => exact ⟨[], (List.append_nil _).symm, rfl⟩
  | cons first rest ih =>
      obtain ⟨added, hadded, hvalues⟩ := ih (b.bind first.1 first.2).2
      refine ⟨(b.freeKey first.1, first.2) :: added, ?_, congrArg (first.2 :: ·) hvalues⟩
      calc (b.bindAll (first :: rest)).entries
          = (b.entries ++ [(b.freeKey first.1, first.2)]) ++ added := hadded
        _ = b.entries ++ (b.freeKey first.1, first.2) :: added := (List.append_cons _ _ _).symm

theorem size_bindAll (b : Bindings) (asked : List (String × Value)) :
    (b.bindAll asked).size = b.size + asked.length := by
  rw [(b.extends_bindAll asked).size, List.length_map]

/-- Values keep their places, however many are bound after them. -/
theorem values_prefix_bindAll (b : Bindings) (asked : List (String × Value)) :
    b.values <+: (b.bindAll asked).values :=
  ⟨_, (b.extends_bindAll asked).values_eq.symm⟩

end Bindings

namespace Test

/-- The values that a test on a column binds, each with the key that it is asked for under. -/
def requests (column : String) : Test → List (String × Value)
  | .exact value => [(column, value)]
  | .like text mode => [(column, .text (mode.pattern text))]
  | .oneOf values =>
    values.zipIdx.map fun (value, index) => (column ++ "__" ++ Number.decimal index, value)
  | .between min max =>
    min.toList.map (column ++ "__min", ·) ++ max.toList.map (column ++ "__max", ·)

/-- The values that the condition of a test refers to, in order. -/
def bound : Test → List Value
  | .exact value => [value]
  | .like text mode => [.text (mode.pattern text)]
  | .oneOf values => values
  | .between min max => min.toList ++ max.toList

theorem values_requests (column : String) (test : Test) :
    (test.requests column).map (·.2) = test.bound := by
  cases test with
  | exact | like => rfl
  | oneOf values => simp [requests, bound, Function.comp_def]
  | between min max => simp [requests, bound, Function.comp_def]

theorem length_requests (column : String) (test : Test) :
    (test.requests column).length = test.bound.length := by
  rw [← values_requests column, List.length_map]

end Test

/-- What predicates bind, one predicate after another. -/
def Predicate.allRequests (predicates : List Predicate) : List (String × Value) :=
  predicates.flatMap fun p => p.test.requests p.column

namespace Sql

theorem snd_bindItems (column : String) (fold : Bool) (index : Nat) (b : Bindings)
    (values : List Value) :
    (bindItems column fold index b values).2 = b.bindAll ((values.zipIdx index).map
      fun (value, index) => (column ++ "__" ++ Number.decimal index, value)) := by
  induction values generalizing index b with
  | nil => rfl
  | cons value rest ih => exact ih (index + 1) _

theorem snd_bindBound (b : Bindings) (key : String) (fold : Bool) (bound : Option Value) :
    (bindBound b key fold bound).2 = b.bindAll (bound.toList.map (key, ·)) := by
  cases bound <;> rfl

/-- Compiling binds what the test asks for and nothing else. -/
theorem snd_condition (column : String) (fold : Bool) (b : Bindings) (test : Test) :
    (condition column fold b test).2 = b.bindAll (test.requests column) := by
  cases test with
  | exact value => rfl
  | like text mode => rfl
  | oneOf values =>
      cases values with
      | nil => rfl
      | cons value rest => exact snd_bindItems column fold 0 b (value :: rest)
  | between min max =>
      rw [Test.requests, Bindings.bindAll_append, ← snd_bindBound b _ fold,
        ← snd_bindBound _ _ fold]
      rfl

theorem extends_condition (b : Bindings) (column : String) (fold : Bool) (test : Test) :
    b.Extends test.bound (condition column fold b test).2 := by
  rw [snd_condition, ← test.values_requests column]
  exact b.extends_bindAll _

theorem compile_of_fault? {p : Predicate} (hname : Name.fault? p.column = none) (b : Bindings) :
    compile p b = .ok (condition p.column p.fold b p.test) := by
  simp only [compile, Predicate.checkedColumn, FieldName.check_of_fault? hname]

/-- The conditions of predicates on valid columns, compiled one after another. -/
def conditionsAfter (b : Bindings) : List Predicate → List Condition
  | [] => []
  | p :: rest =>
    (condition p.column p.fold b p.test).1 ::
      conditionsAfter (b.bindAll (p.test.requests p.column)) rest

theorem compileAll_of_fault? {predicates : List Predicate}
    (hnames : ∀ p ∈ predicates, Name.fault? p.column = none) (b : Bindings) :
    compileAll b predicates =
      .ok (conditionsAfter b predicates, b.bindAll (Predicate.allRequests predicates)) := by
  induction predicates generalizing b with
  | nil => rfl
  | cons p rest ih =>
      obtain ⟨hname, hrest⟩ := List.forall_mem_cons.1 hnames
      have hothers := ih hrest (b.bindAll (p.test.requests p.column))
      rw [Predicate.allRequests, List.flatMap_cons, Bindings.bindAll_append, conditionsAfter]
      simp only [compileAll, compile_of_fault? hname, snd_condition, hothers]
      rfl

end Sql

end RecordSearch
