import RecordSearch.Fetch.Request
import RecordSearch.Proofs.Fetch.CallOrder

/-!
# The script of a request

Which calls a request has to make, read off its directives and its store alone: one call for each
relation that is asked for and for the whole batch, then the calls for the records that it brought.
Every request runs the loads of its script.
-/

namespace RecordSearch

/-- An attempt with the names of the relations that lead to it. -/
structure Step extends Attempt where
  path : List String

def Step.under (name : String) (step : Step) : Step :=
  { step with path := name :: step.path }

def failureOf {α : Type} : Except StoreError α → Option StoreError
  | .ok _ => none
  | .error e => some e

mutual

/-- The steps for a batch of records: none for an empty batch. -/
def Source.script (backend : Backend) (directives : Directives) (parents : List Record) :
    Source → List Step
  | .mk _ relations =>
    if parents = [] then [] else relationScript backend directives parents relations

/-- The steps for the relations that the directives ask for, in the order of the relations. Each
asks once for the distinct keys of the batch, first seen first, and goes on with what that
brought. -/
def relationScript (backend : Backend) (directives : Directives) (parents : List Record) :
    List (Relation × Source) → List Step
  | [] => []
  | (relation, source) :: rest =>
    let others := relationScript backend directives parents rest
    match directives.seek relation.name with
    | none => others
    | some reduced =>
      let keys := (parents.filterMap (·.value? relation.key)).eraseDups
      let predicates : List Predicate := [{ column := "id", test := .oneOf keys, fold := false }]
      let found := backend.select source.entity predicates none true
      let next := match found with
        | .ok (children, _) => Source.script backend reduced children source
        | .error _ => []
      { path := [relation.name]
        call := ⟨source.entity.table, .select predicates true⟩
        failure := failureOf found } :: next.map (·.under relation.name) ++ others

end

@[simp]
theorem map_toAttempt_under (name : String) (steps : List Step) :
    (steps.map (·.under name)).map Step.toAttempt = steps.map Step.toAttempt := by
  rw [List.map_map]
  rfl

mutual

/-- The loads of a plan are the steps of its script. -/
theorem scripts_loads_plan (backend : Backend) (delay : String → Nat) (directives : Directives)
    (parents : List Record) : ∀ source : Source,
      Load.scripts (Fetch.loads delay (source.plan backend directives parents)) =
        (source.script backend directives parents).map Step.toAttempt
  | .mk _ relations => by
      cases parents with
      | nil => rfl
      | cons parent parents =>
          simpa [Source.plan, Source.script] using
            scripts_loads_planRelations backend delay directives (parent :: parents) relations

theorem scripts_loads_planRelations (backend : Backend) (delay : String → Nat)
    (directives : Directives) (parents : List Record) : ∀ relations : List (Relation × Source),
      Load.scripts (Fetch.loads delay (planRelations backend directives parents relations)) =
        (relationScript backend directives parents relations).map Step.toAttempt
  | [] => rfl
  | (relation, source) :: rest => by
      have hrest := scripts_loads_planRelations backend delay directives parents rest
      have hkeys : relation.keys parents =
          (parents.filterMap (·.value? relation.key)).eraseDups := distinct_eq_eraseDups _
      rw [planRelations, relationScript]
      cases hseek : directives.seek relation.name with
      | none => exact hrest
      | some reduced =>
          simp only [hkeys, idPredicate, relatedCall]
          cases hfound : backend.select source.entity _ none true with
          | error e =>
              simp [Except.map, Fetch.loads, Fetch.load, Load.scripts, Load.script, failureOf,
                hrest]
          | ok found =>
              have hnext := scripts_loads_plan backend delay reduced found.1 source
              simp only [Except.map, Fetch.loads, Fetch.load, Load.scripts, Load.script,
                failureOf, hrest, hnext, List.map_cons, List.map_append, map_toAttempt_under]

end

theorem instant_load {delay : String → Nat} (hdelay : ∀ table, delay table = 0) :
    ∀ fetch : Fetch, (fetch.load delay).Instant
  | .mk relation call (.ok _) next => by
      rw [Fetch.load, hdelay]
      exact .mk (onLevel next)
  | .mk relation call (.error e) next => by
      rw [Fetch.load, hdelay]
      exact .mk (by simp)
where
  onLevel : ∀ fetches : List Fetch, ∀ load ∈ Fetch.loads delay fetches, load.Instant
    | [] => by simp [Fetch.loads]
    | fetch :: rest => List.forall_mem_cons.2 ⟨instant_load hdelay fetch, onLevel rest⟩

namespace Repository

/-- The load of a request: its first call, and what the fetches for its answer come to. -/
def requestLoad {α : Type} (delay : String → Nat) (call : Call) (first : Except StoreError α)
    (fetches : α → List Fetch) : Load :=
  match first with
  | .error e => .mk call (delay call.table) (some e) []
  | .ok found => .mk call (delay call.table) none (Fetch.loads delay (fetches found))

section Respond

variable {α β : Type} (repository : Repository) (call : Call) (first : Except StoreError α)
  (fetches : α → List Fetch) (finish : α → β)

theorem respond_log :
    (repository.respond call first fetches finish).log =
      ((requestLoad repository.backend.delay call first fetches).run repository.window 0).log := by
  cases first with
  | error e => rfl
  | ok found =>
      simp only [respond, requestLoad]
      split <;> rfl

variable {repository call first fetches finish}

theorem respond_result_of_some {e : StoreError}
    (h : firstFailure (requestLoad repository.backend.delay call first fetches).script = some e) :
    (repository.respond call first fetches finish).result = .error e := by
  cases first with
  | error e' =>
      have heq : e' = e := by simpa [requestLoad, Load.script, firstFailure_cons] using h
      simp [respond, heq]
  | ok found =>
      rw [← Load.run_failure repository.window 0] at h
      simp only [requestLoad] at h
      simp [respond, h]

theorem respond_result_of_none
    (h : firstFailure (requestLoad repository.backend.delay call first fetches).script = none) :
    ∃ found, first = .ok found ∧
      (repository.respond call first fetches finish).result = .ok (finish found) := by
  cases first with
  | error e => simp [requestLoad, Load.script, firstFailure_cons] at h
  | ok found =>
      rw [← Load.run_failure repository.window 0] at h
      simp only [requestLoad] at h
      exact ⟨found, rfl, by simp [respond, h]⟩

theorem instant_requestLoad {delay : String → Nat} (hdelay : ∀ table, delay table = 0)
    (call : Call) (first : Except StoreError α) (fetches : α → List Fetch) :
    (requestLoad delay call first fetches).Instant := by
  cases first with
  | error e =>
      rw [requestLoad, hdelay]
      exact .mk (by simp)
  | ok found =>
      rw [requestLoad, hdelay]
      exact .mk (instant_load.onLevel hdelay _)

end Respond

/-! ### Scripts of searches and look-ups -/

variable (repository : Repository)

def relatedScript (directives : Option Directives) (records : List Record) : List Step :=
  match directives with
  | none => []
  | some directives => repository.source.script repository.backend directives records

theorem scripts_loads_plan (delay : String → Nat) (directives : Option Directives)
    (records : List Record) :
    Load.scripts (Fetch.loads delay (repository.plan directives records)) =
      (repository.relatedScript directives records).map Step.toAttempt := by
  cases directives with
  | none => rfl
  | some directives => exact RecordSearch.scripts_loads_plan _ _ _ _ _

def searchScript (predicates : List Predicate) (request : Option PageRequest)
    (options : RequestOptions) : List Step :=
  let entity := repository.source.entity
  let found := repository.backend.select entity predicates request options.skipPaging
  { path := []
    call := ⟨entity.table, .select predicates options.skipPaging⟩
    failure := failureOf found } ::
  match found with
  | .ok (records, _) => repository.relatedScript options.directives records
  | .error _ => []

def getByIdScript (id : Value) (directives : Option Directives) : List Step :=
  let entity := repository.source.entity
  let found := repository.backend.selectById entity id
  { path := []
    call := ⟨entity.table, .byId id⟩
    failure := failureOf found } ::
  match found with
  | .ok record => repository.relatedScript directives record.toList
  | .error _ => []

def searchLoad (predicates : List Predicate) (request : Option PageRequest)
    (options : RequestOptions) : Load :=
  requestLoad repository.backend.delay
    ⟨repository.source.entity.table, .select predicates options.skipPaging⟩
    (repository.backend.select repository.source.entity predicates request options.skipPaging)
    fun found => repository.plan options.directives found.1

def getByIdLoad (id : Value) (directives : Option Directives) : Load :=
  requestLoad repository.backend.delay ⟨repository.source.entity.table, .byId id⟩
    (repository.backend.selectById repository.source.entity id)
    fun found => repository.plan directives found.toList

section Search

variable {repository : Repository} {predicates : List Predicate} {request : Option PageRequest}
  {options : RequestOptions}

theorem script_searchLoad :
    (repository.searchLoad predicates request options).script =
      (repository.searchScript predicates request options).map Step.toAttempt := by
  simp only [searchLoad, searchScript]
  cases repository.backend.select repository.source.entity predicates request
      options.skipPaging with
  | error e => rfl
  | ok found => simp [requestLoad, Load.script, scripts_loads_plan, failureOf]

theorem firstFailure_searchLoad :
    firstFailure (repository.searchLoad predicates request options).script =
      (repository.searchScript predicates request options).findSome? (·.failure) := by
  rw [script_searchLoad, firstFailure, List.findSome?_map]
  rfl

theorem search_log :
    (repository.search predicates request options).log =
      ((repository.searchLoad predicates request options).run repository.window 0).log :=
  respond_log _ _ _ _ _

theorem search_result_of_some {e : StoreError}
    (h : (repository.searchScript predicates request options).findSome? (·.failure) = some e) :
    (repository.search predicates request options).result = .error e :=
  respond_result_of_some (firstFailure_searchLoad.trans h)

theorem search_result_of_none
    (h : (repository.searchScript predicates request options).findSome? (·.failure) = none) :
    ∃ found,
      repository.backend.select repository.source.entity predicates request options.skipPaging =
        .ok found ∧
      (repository.search predicates request options).result =
        .ok ⟨Fetch.attachAll (repository.plan options.directives found.1) found.1, found.2⟩ :=
  respond_result_of_none (firstFailure_searchLoad.trans h)

theorem search_calls_of_none
    (h : (repository.searchScript predicates request options).findSome? (·.failure) = none) :
    (repository.search predicates request options).log.map (·.call) =
      (repository.searchScript predicates request options).map (·.call) := by
  have hnone : ((repository.searchLoad predicates request options).run
      repository.window 0).failure = none := by
    rw [Load.run_failure, firstFailure_searchLoad, h]
  rw [search_log, Load.run_calls _ _ _ hnone, script_searchLoad, List.map_map]
  rfl

end Search

section GetById

variable {repository : Repository} {id : Value} {directives : Option Directives}

theorem script_getByIdLoad :
    (repository.getByIdLoad id directives).script =
      (repository.getByIdScript id directives).map Step.toAttempt := by
  simp only [getByIdLoad, getByIdScript]
  cases repository.backend.selectById repository.source.entity id with
  | error e => rfl
  | ok found => simp [requestLoad, Load.script, scripts_loads_plan, failureOf]

theorem firstFailure_getByIdLoad :
    firstFailure (repository.getByIdLoad id directives).script =
      (repository.getByIdScript id directives).findSome? (·.failure) := by
  rw [script_getByIdLoad, firstFailure, List.findSome?_map]
  rfl

theorem getById_result_of_some {e : StoreError}
    (h : (repository.getByIdScript id directives).findSome? (·.failure) = some e) :
    (repository.getById id directives).result = .error e :=
  respond_result_of_some (firstFailure_getByIdLoad.trans h)

theorem getById_result_of_none
    (h : (repository.getByIdScript id directives).findSome? (·.failure) = none) :
    ∃ found, repository.backend.selectById repository.source.entity id = .ok found ∧
      (repository.getById id directives).result =
        .ok (Fetch.attachAll (repository.plan directives found.toList) found.toList).head? :=
  respond_result_of_none (firstFailure_getByIdLoad.trans h)

theorem getById_log :
    (repository.getById id directives).log =
      ((repository.getByIdLoad id directives).run repository.window 0).log :=
  respond_log _ _ _ _ _

theorem getById_calls_of_none
    (h : (repository.getByIdScript id directives).findSome? (·.failure) = none) :
    (repository.getById id directives).log.map (·.call) =
      (repository.getByIdScript id directives).map (·.call) := by
  have hnone : ((repository.getByIdLoad id directives).run
      repository.window 0).failure = none := by
    rw [Load.run_failure, firstFailure_getByIdLoad, h]
  rw [getById_log, Load.run_calls _ _ _ hnone, script_getByIdLoad, List.map_map]
  rfl

end GetById

end Repository

end RecordSearch
