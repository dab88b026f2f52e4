import RecordSearch.Proofs.Fetch.Clock

/-!
# Loads of requests

A request is the run of its load: its first call, and below that the loads that are planned for what
the call brought. Every call of it takes the delay of its table. What a relation adds to a plan is
said here once, for all that is shown of plans by induction on the relations of a source.
-/

namespace RecordSearch

namespace Load

/-- Whether every call of a load takes the delay of its table. -/
inductive Paced (delay : String → Nat) : Load → Prop where
  | mk {call : Call} {failure : Option StoreError} {next : List Load}
      (hnext : ∀ load ∈ next, Paced delay load) :
      Paced delay (.mk call (delay call.table) failure next)

theorem Paced.duration_eq {delay : String → Nat} {load : Load} (h : load.Paced delay) :
    load.duration = delay load.call.table := by
  cases h
  rfl

theorem Paced.next {delay : String → Nat} {load : Load} (h : load.Paced delay) :
    ∀ other ∈ load.next, other.Paced delay := by
  cases h with
  | mk hnext => exact hnext

end Load

theorem paced_load (delay : String → Nat) : ∀ fetch : Fetch, (fetch.load delay).Paced delay
  | .mk relation call (.ok _) next => .mk (onLevel next)
  | .mk relation call (.error e) next => .mk (by simp)
where
  onLevel : ∀ fetches : List Fetch, ∀ load ∈ Fetch.loads delay fetches, load.Paced delay
    | [] => by simp [Fetch.loads]
    | fetch :: rest => List.forall_mem_cons.2 ⟨paced_load delay fetch, onLevel rest⟩

section Plan

variable {backend : Backend} {directives reduced : Directives} {parents : List Record}
  {relation : Relation} {source : Source} {rest : List (Relation × Source)}

theorem planRelations_cons_of_none (hseek : directives.seek relation.name = none) :
    planRelations backend directives parents ((relation, source) :: rest) =
      planRelations backend directives parents rest := by
  rw [planRelations, hseek]

theorem planRelations_cons_of_error (hseek : directives.seek relation.name = some reduced)
    {e : StoreError}
    (hfound : backend.select source.entity [idPredicate (relation.keys parents)] none true =
      .error e) :
    planRelations backend directives parents ((relation, source) :: rest) =
      .mk relation (relatedCall source.entity (relation.keys parents)) (.error e) [] ::
        planRelations backend directives parents rest := by
  rw [planRelations, hseek]
  simp only [hfound]
  rfl

theorem planRelations_cons_of_ok (hseek : directives.seek relation.name = some reduced)
    {found : List Record × PageSummary}
    (hfound : backend.select source.entity [idPredicate (relation.keys parents)] none true =
      .ok found) :
    planRelations backend directives parents ((relation, source) :: rest) =
      .mk relation (relatedCall source.entity (relation.keys parents)) (.ok found.1)
        (source.plan backend reduced found.1) ::
        planRelations backend directives parents rest := by
  rw [planRelations, hseek]
  simp only [hfound]
  rfl

/-- A relation adds no load or one, which leads on to what the relation's source plans or to
nothing. -/
theorem loads_planRelations_cons (delay : String → Nat) (first : Relation × Source) :
    Fetch.loads delay (planRelations backend directives parents (first :: rest)) =
        Fetch.loads delay (planRelations backend directives parents rest) ∨
      ∃ load : Load,
        Fetch.loads delay (planRelations backend directives parents (first :: rest)) =
          load :: Fetch.loads delay (planRelations backend directives parents rest) ∧
        (load.next = [] ∨ ∃ reduced children,
          load.next = Fetch.loads delay (first.2.plan backend reduced children)) := by
  obtain ⟨relation, source⟩ := first
  cases hseek : directives.seek relation.name with
  | none =>
      rw [planRelations_cons_of_none hseek]
      exact Or.inl rfl
  | some reduced =>
      cases hfound : backend.select source.entity [idPredicate (relation.keys parents)] none
          true with
      | error e =>
          rw [planRelations_cons_of_error hseek hfound]
          exact Or.inr ⟨_, rfl, Or.inl rfl⟩
      | ok found =>
          rw [planRelations_cons_of_ok hseek hfound]
          exact Or.inr ⟨_, rfl, Or.inr ⟨reduced, found.1, rfl⟩⟩

theorem length_loads_planRelations_le (delay : String → Nat)
    (relations : List (Relation × Source)) :
    (Fetch.loads delay (planRelations backend directives parents relations)).length ≤
      relations.length := by
  induction relations with
  | nil => exact Nat.zero_le _
  | cons first rest ih =>
      rcases loads_planRelations_cons delay first with hsame | ⟨load, hcons, -⟩
      · rw [hsame]
        exact Nat.le_succ_of_le ih
      · rw [hcons]
        exact Nat.succ_le_succ ih

theorem next_of_mem_loads_planRelations {delay : String → Nat}
    {relations : List (Relation × Source)} {load : Load}
    (h : load ∈ Fetch.loads delay (planRelations backend directives parents relations)) :
    load.next = [] ∨ ∃ other ∈ relations, ∃ reduced children,
      load.next = Fetch.loads delay (other.2.plan backend reduced children) := by
  induction relations with
  | nil => simp [planRelations, Fetch.loads] at h
  | cons first rest ih =>
      have hothers (hrest : load ∈ Fetch.loads delay (planRelations backend directives parents
          rest)) : load.next = [] ∨ ∃ other ∈ first :: rest, ∃ reduced children,
            load.next = Fetch.loads delay (other.2.plan backend reduced children) :=
        (ih hrest).imp_right fun ⟨other, hother, hnext⟩ =>
          ⟨other, List.mem_cons_of_mem _ hother, hnext⟩
      rcases loads_planRelations_cons delay first with hsame | ⟨head, hcons, hnext⟩
      · rw [hsame] at h
        exact hothers h
      · rw [hcons] at h
        rcases List.mem_cons.1 h with rfl | hrest
        · exact hnext.imp_right fun hplan => ⟨first, List.mem_cons_self, hplan⟩
        · exact hothers hrest

end Plan

/-- What an outcome tells of the run of its request. -/
def Outcome.run {α : Type} (outcome : Outcome α) : Run :=
  ⟨outcome.elapsed, failureOf outcome.result, outcome.log⟩

namespace Repository

section Respond

variable {α β : Type} (repository : Repository) (call : Call) (first : Except StoreError α)
  (fetches : α → List Fetch) (finish : α → β)

theorem paced_requestLoad (delay : String → Nat) :
    (requestLoad delay call first fetches).Paced delay := by
  cases first with
  | error e => exact .mk (by simp)
  | ok found => exact .mk (paced_load.onLevel delay _)

theorem respond_run :
    (repository.respond call first fetches finish).run =
      (requestLoad repository.backend.delay call first fetches).run repository.window 0 := by
  cases first with
  | error e => rfl
  | ok found =>
      simp only [respond, requestLoad]
      split <;> rename_i hfailure <;> exact congrArg (Run.mk _ · _) hfailure.symm

end Respond

section Search

variable {repository : Repository} {predicates : List Predicate} {request : Option PageRequest}
  {options : RequestOptions}

theorem search_run :
    (repository.search predicates request options).run =
      (repository.searchLoad predicates request options).run repository.window 0 :=
  respond_run _ _ _ _ _

theorem search_elapsed :
    (repository.search predicates request options).elapsed =
      ((repository.searchLoad predicates request options).run repository.window 0).finish :=
  congrArg Run.finish search_run

theorem paced_searchLoad :
    (repository.searchLoad predicates request options).Paced repository.backend.delay :=
  paced_requestLoad _ _ _ _

theorem search_failure :
    failureOf (repository.search predicates request options).result =
      (repository.searchScript predicates request options).findSome? (·.failure) := by
  calc failureOf (repository.search predicates request options).result
      = ((repository.searchLoad predicates request options).run repository.window 0).failure :=
        congrArg Run.failure search_run
    _ = firstFailure (repository.searchLoad predicates request options).script :=
        Load.run_failure _ _ _
    _ = (repository.searchScript predicates request options).findSome? (·.failure) :=
        firstFailure_searchLoad

end Search

section GetById

variable {repository : Repository} {id : Value} {directives : Option Directives}

theorem getById_run :
    (repository.getById id directives).run =
      (repository.getByIdLoad id directives).run repository.window 0 :=
  respond_run _ _ _ _ _

theorem getById_elapsed :
    (repository.getById id directives).elapsed =
      ((repository.getByIdLoad id directives).run repository.window 0).finish :=
  congrArg Run.finish getById_run

theorem paced_getByIdLoad :
    (repository.getByIdLoad id directives).Paced repository.backend.delay :=
  paced_requestLoad _ _ _ _

theorem getById_failure :
    failureOf (repository.getById id directives).result =
      (repository.getByIdScript id directives).findSome? (·.failure) := by
  calc failureOf (repository.getById id directives).result
      = ((repository.getByIdLoad id directives).run repository.window 0).failure :=
        congrArg Run.failure getById_run
    _ = firstFailure (repository.getByIdLoad id directives).script := Load.run_failure _ _ _
    _ = (repository.getByIdScript id directives).findSome? (·.failure) := firstFailure_getByIdLoad

end GetById

end Repository

end RecordSearch
