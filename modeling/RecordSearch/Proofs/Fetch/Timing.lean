import RecordSearch.Proofs.Fetch.Script

/-!
# Timing does not change outcomes

Delays and the window decide when the calls of a request are made. What the request answers is
decided by its script, which knows neither: two runs of a request that differ in timing alone give
the same records or the same error, and if they give records they have made the same calls.
-/

namespace RecordSearch

section Timing

variable (backend : Backend) (delay : String → Nat)

def Backend.timed : Backend :=
  { backend with delay }

theorem select_timed (entity : Entity) (predicates : List Predicate) :
    (backend.timed delay).select entity predicates none true =
      backend.select entity predicates none true := rfl

mutual

theorem script_timed (directives : Directives) (parents : List Record) : ∀ source : Source,
    source.script (backend.timed delay) directives parents =
      source.script backend directives parents
  | .mk _ relations => by
      rw [Source.script, Source.script, relationScript_timed directives parents relations]

theorem relationScript_timed (directives : Directives) (parents : List Record) :
    ∀ relations : List (Relation × Source),
      relationScript (backend.timed delay) directives parents relations =
        relationScript backend directives parents relations
  | [] => rfl
  | (relation, source) :: rest => by
      simp only [relationScript, relationScript_timed directives parents rest, select_timed,
        script_timed _ _ source]

end

mutual

theorem plan_timed (directives : Directives) (parents : List Record) : ∀ source : Source,
    source.plan (backend.timed delay) directives parents =
      source.plan backend directives parents
  | .mk _ relations => by
      rw [Source.plan, Source.plan, planRelations_timed directives parents relations]

theorem planRelations_timed (directives : Directives) (parents : List Record) :
    ∀ relations : List (Relation × Source),
      planRelations (backend.timed delay) directives parents relations =
        planRelations backend directives parents relations
  | [] => rfl
  | (relation, source) :: rest => by
      simp only [planRelations, planRelations_timed directives parents rest, select_timed,
        plan_timed _ _ source]

end

end Timing

/-- Two outcomes of a request with a script: both answer the first failure of the script, or both
answer the same and have made the same calls. -/
structure SameOutcome {α : Type} (script : List Step) (one two : Outcome α) : Prop where
  result : one.result = two.result
  error : ∀ e, one.result = .error e ↔ script.findSome? (·.failure) = some e
  calls : ∀ answer, one.result = .ok answer →
    (one.log.map (·.call)).Perm (two.log.map (·.call))

theorem SameOutcome.of_script {α : Type} {script : List Step} {one two : Outcome α}
    (hsome : ∀ e, script.findSome? (·.failure) = some e →
      one.result = .error e ∧ two.result = .error e)
    (hnone : script.findSome? (·.failure) = none →
      ∃ answer, one.result = .ok answer ∧ two.result = .ok answer ∧
        one.log.map (·.call) = script.map (·.call) ∧
        two.log.map (·.call) = script.map (·.call)) : SameOutcome script one two := by
  cases hfailure : script.findSome? (·.failure) with
  | some e =>
      obtain ⟨hone, htwo⟩ := hsome e hfailure
      refine ⟨hone.trans htwo.symm, fun e' => ?_, fun answer hanswer => ?_⟩
      · simp [hone, hfailure]
      · rw [hone] at hanswer
        cases hanswer
  | none =>
      obtain ⟨answer, hone, htwo, honeCalls, htwoCalls⟩ := hnone hfailure
      refine ⟨hone.trans htwo.symm, fun e' => ?_, fun _ _ => ?_⟩
      · simp [hone, hfailure]
      · rw [honeCalls, htwoCalls]

namespace Repository

variable (repository : Repository)

def timed (delay : String → Nat) (window : Window) : Repository :=
  { repository with backend := repository.backend.timed delay, window }

section Timed

variable (delay : String → Nat) (window : Window)

theorem plan_timed (directives : Option Directives) (records : List Record) :
    (repository.timed delay window).plan directives records =
      repository.plan directives records := by
  cases directives with
  | none => rfl
  | some directives => exact RecordSearch.plan_timed _ _ _ _ _

theorem relatedScript_timed (directives : Option Directives) (records : List Record) :
    (repository.timed delay window).relatedScript directives records =
      repository.relatedScript directives records := by
  cases directives with
  | none => rfl
  | some directives => exact script_timed _ _ _ _ _

theorem searchScript_timed (predicates : List Predicate) (request : Option PageRequest)
    (options : RequestOptions) :
    (repository.timed delay window).searchScript predicates request options =
      repository.searchScript predicates request options := by
  simp only [searchScript, relatedScript_timed]
  rfl

theorem getByIdScript_timed (id : Value) (directives : Option Directives) :
    (repository.timed delay window).getByIdScript id directives =
      repository.getByIdScript id directives := by
  simp only [getByIdScript, relatedScript_timed]
  rfl

theorem search_timed_of_none {predicates : List Predicate} {request : Option PageRequest}
    {options : RequestOptions}
    (h : (repository.searchScript predicates request options).findSome? (·.failure) = none)
    {found : List Record × PageSummary}
    (hfound : repository.backend.select repository.source.entity predicates request
      options.skipPaging = .ok found) :
    let outcome := (repository.timed delay window).search predicates request options
    outcome.result =
      .ok ⟨Fetch.attachAll (repository.plan options.directives found.1) found.1, found.2⟩ ∧
    outcome.log.map (·.call) =
      (repository.searchScript predicates request options).map (·.call) := by
  intro outcome
  rw [← repository.searchScript_timed delay window] at h ⊢
  obtain ⟨found', hfound', hresult⟩ := search_result_of_none h
  obtain rfl : found' = found := Except.ok.inj (hfound'.symm.trans hfound)
  rw [plan_timed] at hresult
  exact ⟨hresult, search_calls_of_none h⟩

theorem getById_timed_of_none {id : Value} {directives : Option Directives}
    (h : (repository.getByIdScript id directives).findSome? (·.failure) = none)
    {found : Option Record}
    (hfound : repository.backend.selectById repository.source.entity id = .ok found) :
    let outcome := (repository.timed delay window).getById id directives
    outcome.result =
      .ok (Fetch.attachAll (repository.plan directives found.toList) found.toList).head? ∧
    outcome.log.map (·.call) = (repository.getByIdScript id directives).map (·.call) := by
  intro outcome
  rw [← repository.getByIdScript_timed delay window] at h ⊢
  obtain ⟨found', hfound', hresult⟩ := getById_result_of_none h
  obtain rfl : found' = found := Except.ok.inj (hfound'.symm.trans hfound)
  rw [plan_timed] at hresult
  exact ⟨hresult, getById_calls_of_none h⟩

end Timed

/-- **Timing does not change outcomes.** Whatever the delays of the tables and the window, a search
and a look-up answer the same: the failure of the first call, in the order of the script, that
fails, or else the same records after the same calls. -/
theorem sameOutcome_timed (delay₁ delay₂ : String → Nat) (window₁ window₂ : Window) :
    (∀ predicates request options,
      SameOutcome (repository.searchScript predicates request options)
        ((repository.timed delay₁ window₁).search predicates request options)
        ((repository.timed delay₂ window₂).search predicates request options)) ∧
    ∀ id directives,
      SameOutcome (repository.getByIdScript id directives)
        ((repository.timed delay₁ window₁).getById id directives)
        ((repository.timed delay₂ window₂).getById id directives) := by
  constructor
  · intro predicates request options
    refine .of_script (fun e he => ?_) (fun hnone => ?_)
    · constructor <;> exact search_result_of_some (by rw [searchScript_timed, he])
    · obtain ⟨found, hfound, _⟩ := search_result_of_none hnone
      obtain ⟨hone, honeCalls⟩ := repository.search_timed_of_none delay₁ window₁ hnone hfound
      obtain ⟨htwo, htwoCalls⟩ := repository.search_timed_of_none delay₂ window₂ hnone hfound
      exact ⟨_, hone, htwo, honeCalls, htwoCalls⟩
  · intro id directives
    refine .of_script (fun e he => ?_) (fun hnone => ?_)
    · constructor <;> exact getById_result_of_some (by rw [getByIdScript_timed, he])
    · obtain ⟨found, hfound, _⟩ := getById_result_of_none hnone
      obtain ⟨hone, honeCalls⟩ := repository.getById_timed_of_none delay₁ window₁ hnone hfound
      obtain ⟨htwo, htwoCalls⟩ := repository.getById_timed_of_none delay₂ window₂ hnone hfound
      exact ⟨_, hone, htwo, honeCalls, htwoCalls⟩

end Repository

end RecordSearch
