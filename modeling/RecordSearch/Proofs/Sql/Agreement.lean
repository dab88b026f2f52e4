import RecordSearch.Proofs.Bindings.Requests
import RecordSearch.Proofs.Predicate.Fields
import RecordSearch.Proofs.Sql.Grammar

/-!
# Statements and matching agree

A row satisfies predicates exactly if the clause that is compiled from them, read as a database
reads its text, is true on the row. Values are bound one after another and places are never given
twice, so that a place stands for the same value however many are bound after it.
-/

namespace RecordSearch.Sql

/-! ### Bound values -/

/-- Whether an operand is the place of a value, in lower case where case is disregarded. -/
def StandsFor (values : List Value) (fold : Bool) (value : Value) (operand : Operand) : Prop :=
  ∃ place, operand = foldCase (.parameter place) fold ∧ bound? values place = some value

/-- What is bound later does not change the value at a place. -/
theorem standsFor_bindOperand {b : Bindings} {key : String} {value : Value} {fold : Bool}
    {values : List Value} (h : (bindOperand b key value fold).2.values <+: values) :
    StandsFor values fold value (bindOperand b key value fold).1 := by
  refine ⟨b.size + 1, rfl, ?_⟩
  have hvalues : (bindOperand b key value fold).2.values = b.values ++ [value] :=
    (b.extends_bindAll [(key, value)]).values_eq
  rw [hvalues] at h
  obtain ⟨later, rfl⟩ := h
  simp [bound?, ← b.length_values]

theorem standsFor_bindItems {column : String} {fold : Bool} {values : List Value}
    {items : List Value} : ∀ {index : Nat} {b : Bindings},
      (bindItems column fold index b items).2.values <+: values →
      List.Forall₂ (StandsFor values fold) items (bindItems column fold index b items).1 := by
  induction items with
  | nil => exact fun _ => .nil
  | cons value rest ih =>
      intro index b h
      have hrest := h
      rw [bindItems, snd_bindItems] at hrest
      have hfirst := (Bindings.values_prefix_bindAll _ _).trans hrest
      exact .cons (standsFor_bindOperand hfirst) (ih h)

/-! ### Truth -/

/-- Whether there is a truth value, and it is `yes` exactly under a condition. -/
def Says (truth : Option Truth) (holds : Prop) : Prop :=
  ∃ t, truth = some t ∧ (t = .yes ↔ holds)

theorem Says.congr {truth : Option Truth} {p q : Prop} (h : Says truth p) (hpq : p ↔ q) :
    Says truth q := by
  rwa [← propext hpq]

section Column

variable {values : List Value} {row : Json} {name : String}

theorem onColumn_eq_yes_iff {test : Json → Bool} :
    onColumn row name test = .yes ↔ ∃ field, row.field? name = some field ∧ test field = true := by
  unfold onColumn
  cases row.field? name with
  | none => simp
  | some field => simp

theorem against?_of_standsFor {test : Json → Bool → Value → Bool} {fold : Bool} {value : Value}
    {operand : Operand} (h : StandsFor values fold value operand) :
    against? values row test (foldCase (.column name) fold) operand =
      some (onColumn row name fun field => test field fold value) := by
  obtain ⟨place, rfl, hbound⟩ := h
  cases fold <;> simp [foldCase, against?, hbound]

theorem says_against? {test : Json → Bool → Value → Bool} {fold : Bool} {value : Value}
    {operand : Operand} (h : StandsFor values fold value operand) :
    Says (against? values row test (foldCase (.column name) fold) operand)
      (∃ field, row.field? name = some field ∧ test field fold value = true) :=
  ⟨_, against?_of_standsFor h, onColumn_eq_yes_iff⟩

theorem says_equal? {fold : Bool} {value : Value} {operand : Operand}
    (h : StandsFor values fold value operand) :
    Says ((Condition.equal (foldCase (.column name) fold) operand).truth? values row)
      (∃ field, row.field? name = some field ∧ equals field fold value = true) := by
  have hagainst : equal? values row (foldCase (.column name) fold) operand =
      against? values row equals (foldCase (.column name) fold) operand := by
    obtain ⟨place, rfl, _⟩ := h
    cases fold <;> rfl
  rw [Condition.truth?, hagainst]
  exact says_against? h

/-- A column is one of some values if one comparison is true, and never because one is unknown. -/
theorem says_isIn {fold : Bool} {items : List Value} {operands : List Operand}
    (h : List.Forall₂ (StandsFor values fold) items operands) :
    Says ((Condition.isIn (foldCase (.column name) fold) operands).truth? values row)
      (∃ field, row.field? name = some field ∧
        ∃ value ∈ items, equals field fold value = true) := by
  have hread : operands.mapM (against? values row equals (foldCase (.column name) fold)) =
      some (items.map fun value => onColumn row name fun field => equals field fold value) := by
    rw [mapM_eq_some_iff, List.forall₂_map_right_iff]
    exact (h.imp fun value operand hstands => against?_of_standsFor hstands).flip
  refine ⟨_, by rw [Condition.truth?, hread]; rfl, ?_⟩
  have hany : ∀ truths : List Truth, truths.foldr Truth.or .no = .yes ↔ .yes ∈ truths := by
    intro truths
    induction truths with
    | nil => simp
    | cons truth truths ih =>
        rw [List.foldr_cons, Truth.or_eq_yes_iff, ih, List.mem_cons, @eq_comm _ Truth.yes truth]
  rw [hany, List.mem_map]
  constructor
  · rintro ⟨value, hvalue, hyes⟩
    obtain ⟨field, hfield, hequals⟩ := onColumn_eq_yes_iff.1 hyes
    exact ⟨field, hfield, value, hvalue, hequals⟩
  · rintro ⟨field, hfield, value, hvalue, hequals⟩
    exact ⟨value, hvalue, onColumn_eq_yes_iff.2 ⟨field, hfield, hequals⟩⟩

theorem Says.both {left right : Condition} {p q : Prop} (hleft : Says (left.truth? values row) p)
    (hright : Says (right.truth? values row) q) :
    Says ((Condition.both left right).truth? values row) (p ∧ q) := by
  obtain ⟨a, ha, hp⟩ := hleft
  obtain ⟨b, hb, hq⟩ := hright
  exact ⟨a.and b, by simp [Condition.truth?, ha, hb], by rw [Truth.and_eq_yes_iff, hp, hq]⟩

theorem says_anything (fold : Bool) :
    Says ((Condition.either (.equal (foldCase (.column name) fold) (foldCase (.column name) fold))
      (.isNull (foldCase (.column name) fold))).truth? values row) True := by
  refine ⟨(onColumn row name fun _ => true).or (.ofBool (row.field? name).isNone), ?_, ?_⟩
  · cases fold <;> simp [foldCase, Condition.truth?, equal?, isNull?]
  · rw [Truth.or_eq_yes_iff, onColumn_eq_yes_iff]
    cases row.field? name <;> simp

end Column

/-! ### The condition of a predicate -/

section Condition

variable {column : String} {fold : Bool} {b : Bindings}

theorem says_between {min max : Option Value} {values : List Value}
    (hvalues : (condition column fold b (.between min max)).2.values <+: values) (row : Json) :
    Says ((condition column fold b (.between min max)).1.truth? values row)
      (Predicate.isMatch ⟨column, .between min max, fold⟩ row = true) := by
  have hlow : ∀ value, min = some value →
      StandsFor values fold value (bindOperand b (column ++ "__min") value fold).1 := by
    rintro value rfl
    have hlater := Bindings.values_prefix_bindAll
      (bindOperand b (column ++ "__min") value fold).2 (max.toList.map (column ++ "__max", ·))
    rw [← snd_bindBound _ _ fold] at hlater
    exact standsFor_bindOperand (hlater.trans hvalues)
  have hhigh : ∀ value, max = some value → StandsFor values fold value
      (bindOperand (bindBound b (column ++ "__min") fold min).2 (column ++ "__max") value
        fold).1 := by
    rintro value rfl
    exact standsFor_bindOperand hvalues
  cases min with
  | none =>
      cases max with
      | none => exact (says_anything fold).congr (by simp [Predicate.isMatch])
      | some high =>
          rw [Predicate.isMatch_iff (by simp)]
          exact (says_against? (hhigh high rfl)).congr (by simp [Test.passes])
  | some low =>
      rw [Predicate.isMatch_iff (by simp)]
      cases max with
      | none => exact (says_against? (hlow low rfl)).congr (by simp [Test.passes])
      | some high =>
          have hatLeast : Says ((Condition.atLeast (foldCase (.column column) fold)
              (bindOperand b (column ++ "__min") low fold).1).truth? values row)
              (∃ field, row.field? column = some field ∧ atLeast field fold low = true) :=
            says_against? (hlow low rfl)
          have hatMost : Says ((Condition.atMost (foldCase (.column column) fold)
              (bindOperand (bindBound b (column ++ "__min") fold (some low)).2 (column ++ "__max")
                high fold).1).truth? values row)
              (∃ field, row.field? column = some field ∧ atMost field fold high = true) :=
            says_against? (hhigh high rfl)
          refine (hatLeast.both hatMost).congr ?_
          cases row.field? column <;> simp [Test.passes]

theorem says_condition {test : Test} {values : List Value}
    (hvalues : (condition column fold b test).2.values <+: values) (row : Json) :
    Says ((condition column fold b test).1.truth? values row)
      (Predicate.isMatch ⟨column, test, fold⟩ row = true) := by
  cases test with
  | exact value =>
      have hstands : StandsFor values (fold && value.isText) value
          (bindOperand b column value (fold && value.isText)).1 := standsFor_bindOperand hvalues
      rw [Predicate.isMatch_iff (by simp)]
      exact says_equal? hstands
  | like text mode =>
      have hstands : StandsFor values fold (.text (mode.pattern text))
          (bindOperand b column (.text (mode.pattern text)) fold).1 := standsFor_bindOperand hvalues
      rw [Predicate.isMatch_iff (by simp)]
      exact says_against? hstands
  | oneOf items =>
      rw [Predicate.isMatch_iff (by simp)]
      cases items with
      | nil => exact ⟨.unknown, rfl, by simp [Test.passes]⟩
      | cons value rest =>
          have hstands : List.Forall₂ (StandsFor values fold) (value :: rest)
              (bindItems column fold 0 b (value :: rest)).1 := standsFor_bindItems hvalues
          exact (says_isIn hstands).congr (by simp [Test.passes])
  | between min max => exact says_between hvalues row

end Condition

/-! ### Clauses -/

theorem isNamed_column {column : String} (hname : Name.fault? column = none) (fold : Bool) :
    (foldCase (.column column) fold).IsNamed := by
  cases fold <;> exact hname

theorem isNamed_parameter (place : Nat) (fold : Bool) :
    (foldCase (.parameter place) fold).IsNamed := by
  cases fold <;> trivial

theorem isNamed_bindItems (column : String) (fold : Bool) (index : Nat) (b : Bindings)
    (items : List Value) : ∀ item ∈ (bindItems column fold index b items).1, item.IsNamed := by
  induction items generalizing index b with
  | nil => simp [bindItems]
  | cons value rest ih =>
      intro item hitem
      rcases List.mem_cons.1 hitem with rfl | hitem
      · exact isNamed_parameter _ fold
      · exact ih (index + 1) _ item hitem

theorem isReadable_condition {column : String} (hname : Name.fault? column = none) (fold : Bool)
    (b : Bindings) (test : Test) : (condition column fold b test).1.IsReadable := by
  have hcolumn := isNamed_column hname
  cases test with
  | exact value => exact ⟨hcolumn _, isNamed_parameter _ _⟩
  | like text mode => exact ⟨hcolumn _, isNamed_parameter _ _⟩
  | oneOf items =>
      cases items with
      | nil => exact ⟨hname, by simp, by simp [Operand.IsNamed]⟩
      | cons value rest =>
          exact ⟨hcolumn _, List.cons_ne_nil _ _,
            isNamed_bindItems column fold 0 b (value :: rest)⟩
  | between min max =>
      cases min <;> cases max
      · exact ⟨⟨hcolumn _, hcolumn _⟩, hcolumn _⟩
      · exact ⟨hcolumn _, isNamed_parameter _ _⟩
      · exact ⟨hcolumn _, isNamed_parameter _ _⟩
      · exact ⟨⟨hcolumn _, isNamed_parameter _ _⟩, hcolumn _, isNamed_parameter _ _⟩

/-- Predicates as callers come by them: from the constructors, and with case disregarded or not
afterwards. -/
inductive Built : Predicate → Prop
  | exact {column : String} {value : Value} {p : Predicate}
      (h : Predicate.exact column value = .ok p) : Built p
  | like {column text : String} {mode : LikeMode} {p : Predicate}
      (h : Predicate.like column text mode = .ok p) : Built p
  | oneOf {column : String} {values : List Value} {p : Predicate}
      (h : Predicate.oneOf column values = .ok p) : Built p
  | between {column : String} {min max : Option Value} {p : Predicate}
      (h : Predicate.between column min max = .ok p) : Built p
  | ignoreCase {p q : Predicate} (hp : Built p) (h : p.ignoreCase = .ok q) : Built q
  | caseSensitive {p : Predicate} (hp : Built p) : Built p.caseSensitive

theorem fault?_of_on {column : String} {test : Test} {fold : Bool} {p : Predicate}
    (h : Predicate.on column test fold = .ok p) : Name.fault? p.column = none := by
  unfold Predicate.on at h
  cases hname : Predicate.checkedColumn column with
  | error misuse =>
      rw [hname] at h
      cases h
  | ok name =>
      rw [hname] at h
      rw [← Except.ok.inj h]
      exact name.valid

theorem Built.fault? {p : Predicate} (h : Built p) : Name.fault? p.column = none := by
  induction h with
  | exact h | like h | oneOf h | between h => exact fault?_of_on h
  | ignoreCase _ h ih =>
      unfold Predicate.ignoreCase at h
      split at h
      · cases h
      · rw [← Except.ok.inj h]
        exact ih
  | caseSensitive _ ih => exact ih

theorem isReadable_conditionsAfter {predicates : List Predicate}
    (hnames : ∀ p ∈ predicates, Name.fault? p.column = none) (b : Bindings) :
    ∀ condition ∈ conditionsAfter b predicates, condition.IsReadable := by
  induction predicates generalizing b with
  | nil => simp [conditionsAfter]
  | cons p rest ih =>
      obtain ⟨hname, hrest⟩ := List.forall_mem_cons.1 hnames
      exact List.forall_mem_cons.2 ⟨isReadable_condition hname _ _ _, ih hrest _⟩

/-- Conditions are true exactly on the rows that match, whatever values are bound after theirs. -/
theorem says_conditionsAfter {predicates : List Predicate} {b : Bindings} {values : List Value}
    (hvalues : (b.bindAll (Predicate.allRequests predicates)).values <+: values) (row : Json) :
    List.Forall₂ (fun (p : Predicate) (c : Condition) =>
      Says (c.truth? values row) (p.isMatch row = true)) predicates
      (conditionsAfter b predicates) := by
  induction predicates generalizing b with
  | nil => exact .nil
  | cons p rest ih =>
      rw [Predicate.allRequests, List.flatMap_cons, Bindings.bindAll_append] at hvalues
      have hfirst : (condition p.column p.fold b p.test).2.values <+: values := by
        rw [snd_condition]
        exact (Bindings.values_prefix_bindAll _ _).trans hvalues
      exact .cons (says_condition hfirst row) (ih hvalues)

theorem says_conjunction {values : List Value} {row : Json} {first : Predicate}
    {firstCondition : Condition}
    (hfirst : Says (firstCondition.truth? values row) (first.isMatch row = true))
    {rest : List Predicate} {conditions : List Condition}
    (hrest : List.Forall₂ (fun (p : Predicate) (c : Condition) =>
      Says (c.truth? values row) (p.isMatch row = true)) rest conditions) :
    Says ((conjunction firstCondition conditions).truth? values row)
      (Predicate.allMatch (first :: rest) row = true) := by
  induction hrest generalizing first firstCondition with
  | nil => exact hfirst.congr (by simp [Predicate.allMatch])
  | cons hnext _ ih => exact (hfirst.both (ih hnext)).congr (by simp [Predicate.allMatch])

/-- **Statements and matching agree.** Predicates that callers can come by are compiled, the text of
the clause can be read, and on every row what was read is true exactly if the row satisfies every
predicate. -/
theorem whereClause_agrees (predicates : List Predicate) (hbuilt : ∀ p ∈ predicates, Built p) :
    ∃ conditions bindings, compileAll .empty predicates = .ok (conditions, bindings) ∧
      ∃ clause, readWhere? (whereClause conditions) = some clause ∧
        ∀ row, ∃ truth, clauseTruth? bindings.values row clause = some truth ∧
          (truth = .yes ↔ Predicate.allMatch predicates row = true) := by
  have hnames : ∀ p ∈ predicates, Name.fault? p.column = none := fun p hp => (hbuilt p hp).fault?
  have hreadable := isReadable_conditionsAfter hnames .empty
  refine ⟨_, _, compileAll_of_fault? hnames .empty, ?_⟩
  have hmeaning (row : Json) := says_conditionsAfter
    (List.prefix_refl (Bindings.empty.bindAll (Predicate.allRequests predicates)).values) row
  cases predicates with
  | nil => exact ⟨none, by decide +kernel, fun row => ⟨.yes, rfl, by simp [Predicate.allMatch]⟩⟩
  | cons first rest =>
      refine ⟨_, readWhere?_whereClause _ _ hreadable, fun row => ?_⟩
      obtain ⟨hfirst, hrest⟩ := List.forall₂_cons.1 (hmeaning row)
      exact says_conjunction hfirst hrest

/-- A name in any case, and a rank that has a least value and is one of none. -/
def samplePredicates : List Predicate := [
  ⟨"name", .exact (.text "Ada"), true⟩,
  ⟨"rank", .between (some (.integer 1)) none, false⟩,
  ⟨"rank", .oneOf [], false⟩]

theorem built_samplePredicates : ∀ p ∈ samplePredicates, Built p := by
  have hname : Predicate.exact "name" (.text "Ada") =
      .ok ⟨"name", .exact (.text "Ada"), false⟩ := rfl
  have hrange : Predicate.between "rank" (some (.integer 1)) none =
      .ok ⟨"rank", .between (some (.integer 1)) none, false⟩ := rfl
  have hlist : Predicate.oneOf "rank" [] = .ok ⟨"rank", .oneOf [], false⟩ := rfl
  simp only [samplePredicates, List.forall_mem_cons]
  exact ⟨.ignoreCase (.exact hname) rfl, .between hrange, .oneOf hlist, by simp⟩

theorem whereClause_agrees_samplePredicates :
    (∀ p ∈ samplePredicates, Built p) ∧
    ∃ conditions bindings, compileAll .empty samplePredicates = .ok (conditions, bindings) ∧
      ∃ clause, readWhere? (whereClause conditions) = some clause ∧
        clauseTruth? bindings.values .null clause ≠ some .yes := by
  obtain ⟨conditions, bindings, hcompile, clause, hclause, hagrees⟩ :=
    whereClause_agrees samplePredicates built_samplePredicates
  refine ⟨built_samplePredicates, conditions, bindings, hcompile, clause, hclause, fun hyes => ?_⟩
  obtain ⟨truth, htruth, hiff⟩ := hagrees .null
  have hmatch := hiff.1 (Option.some.inj (htruth.symm.trans hyes))
  exact absurd hmatch (by decide +kernel)

end RecordSearch.Sql
