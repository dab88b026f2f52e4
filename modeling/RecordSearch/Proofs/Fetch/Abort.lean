import RecordSearch.Catalogue.TaggedTree
import RecordSearch.Proofs.Fetch.Ending
import RecordSearch.Proofs.Fetch.Timing

/-!
# Failing tables

A failure may have to wait for calls before it in the order, and these go on with what they lead to:
it is not the first failure in time that ends a request. With a window for one load at a time it is,
because then nothing is in flight beside a call.
-/

namespace RecordSearch

theorem fails_of_mem_dropLast {α : Type} {p : α → Bool} {xs : List α} :
    ∀ x ∈ (takeThrough p xs).dropLast, p x = false := by
  induction xs with
  | nil => simp [takeThrough]
  | cons y ys ih =>
      by_cases hy : p y = true
      · simp [takeThrough, hy]
      · rw [takeThrough, if_neg hy]
        intro x hx
        by_cases hnil : takeThrough p ys = []
        · simp [hnil] at hx
        · rw [List.dropLast_cons_of_ne_nil hnil] at hx
          rcases List.mem_cons.1 hx with rfl | hx
          · exact Bool.eq_false_iff.2 hy
          · exact ih x hx

/-- Whether a step fails if its table does. -/
def Step.Fails (outage : String → Option Duration) (step : Step) : Prop :=
  outage step.call.table ≠ none → step.failure ≠ none

section Outage

variable {backend : Backend}

theorem failureOf_select_ne_none {entity : Entity} (predicates : List Predicate)
    (request : Option PageRequest) (skipPaging : Bool) (h : backend.outage entity.table ≠ none) :
    failureOf (backend.select entity predicates request skipPaging) ≠ none := by
  obtain ⟨limit, hlimit⟩ := Option.ne_none_iff_exists'.1 h
  simp [Backend.select, Backend.answer, hlimit, failureOf, bind, Except.bind]

theorem failureOf_selectById_ne_none {entity : Entity} (id : Value)
    (h : backend.outage entity.table ≠ none) :
    failureOf (backend.selectById entity id) ≠ none := by
  obtain ⟨limit, hlimit⟩ := Option.ne_none_iff_exists'.1 h
  simp [Backend.selectById, Backend.answer, hlimit, failureOf, bind, Except.bind]

mutual

theorem fails_script (directives : Directives) (parents : List Record) : ∀ source : Source,
    ∀ step ∈ source.script backend directives parents, step.Fails backend.outage
  | .mk _ relations => by
      rw [Source.script]
      split
      · simp
      · exact fails_relationScript directives parents relations

theorem fails_relationScript (directives : Directives) (parents : List Record) :
    ∀ relations : List (Relation × Source),
      ∀ step ∈ relationScript backend directives parents relations, step.Fails backend.outage
  | [] => by simp [relationScript]
  | (relation, source) :: rest => by
      have hrest := fails_relationScript directives parents rest
      rw [relationScript]
      cases directives.seek relation.name with
      | none => exact hrest
      | some reduced =>
          intro step hstep
          rcases List.mem_append.1 hstep with hstep | hstep
          · rcases List.mem_cons.1 hstep with rfl | hstep
            · exact failureOf_select_ne_none _ none true
            · obtain ⟨below, hbelow, rfl⟩ := List.mem_map.1 hstep
              split at hbelow
              · exact fails_script reduced _ source below hbelow
              · simp at hbelow
          · exact hrest step hstep

end

theorem Repository.fails_relatedScript (repository : Repository) (directives : Option Directives)
    (records : List Record) : ∀ step ∈ repository.relatedScript directives records,
      step.Fails repository.backend.outage := by
  cases directives with
  | none => simp [relatedScript]
  | some directives => exact fails_script directives records repository.source

theorem Repository.fails_searchScript (repository : Repository) (predicates : List Predicate)
    (request : Option PageRequest) (options : RequestOptions) :
    ∀ step ∈ repository.searchScript predicates request options,
      step.Fails repository.backend.outage := by
  refine List.forall_mem_cons.2 ⟨failureOf_select_ne_none _ _ _, ?_⟩
  split
  · exact repository.fails_relatedScript _ _
  · simp

theorem Repository.fails_getByIdScript (repository : Repository) (id : Value)
    (directives : Option Directives) :
    ∀ step ∈ repository.getByIdScript id directives, step.Fails repository.backend.outage := by
  refine List.forall_mem_cons.2 ⟨failureOf_selectById_ne_none _, ?_⟩
  split
  · exact repository.fails_relatedScript _ _
  · simp

end Outage

/-- Whether a request is over as soon as a call to a failing table has ended. -/
def Outcome.AbortsAtOnce {α : Type} (outage : String → Option Duration) (outcome : Outcome α) :
    Prop :=
  ∀ failed ∈ outcome.log, outage failed.call.table ≠ none →
    ∀ stop, failed.stop = some stop →
      outcome.elapsed ≤ stop ∧ ∀ entry ∈ outcome.log, entry.start ≤ stop

/-- With room for one load at a time the call that fails is the last one. -/
theorem Outcome.EndsWith.abortsAtOnce {α : Type} {repository : Repository} {script : List Step}
    {outcome : Outcome α} {ended dropped : List Entry}
    (h : outcome.EndsWith repository script ended dropped) (hwidth : repository.window.width = 1)
    (hfails : ∀ step ∈ script, step.Fails repository.backend.outage) :
    outcome.AbortsAtOnce repository.backend.outage := by
  have hlog : outcome.log = ended := by
    have hdropped : dropped = [] := h.dropped_eq_nil (Or.inr hwidth)
    rw [show outcome.log = ended ++ dropped from h.log, hdropped, List.append_nil]
  intro failed hfailed houtage stop hstop
  rw [hlog] at hfailed ⊢
  have hne : ended ≠ [] := List.ne_nil_of_mem hfailed
  have hlast : failed = ended.getLast hne := by
    rw [← List.dropLast_concat_getLast hne] at hfailed
    rcases List.mem_append.1 hfailed with hbefore | hlast
    · -- A call before the last one belongs to an attempt that does not fail.
      have hcall : failed.call ∈ (takeThrough Attempt.fails
          (script.map Step.toAttempt)).dropLast.map (·.call) := by
        rw [List.map_dropLast, ← h.calls, ← List.map_dropLast]
        exact List.mem_map_of_mem hbefore
      obtain ⟨attempt, hattempt, heq⟩ := List.mem_map.1 hcall
      have hmade : attempt ∈ script.map Step.toAttempt :=
        (takeThrough_sublist _).mem ((List.dropLast_sublist _).mem hattempt)
      obtain ⟨step, hstep, rfl⟩ := List.mem_map.1 hmade
      have hpasses := fails_of_mem_dropLast _ hattempt
      have hfailure : step.failure ≠ none := hfails step hstep (by rwa [← heq] at houtage)
      simp [Attempt.fails, hfailure] at hpasses
    · exact List.mem_singleton.1 hlast
  have hend : some stop = some outcome.elapsed := by
    rw [← hstop, hlast]
    exact h.last hwidth hne
  obtain rfl := Option.some.inj hend
  refine ⟨le_rfl, fun entry hentry => ?_⟩
  obtain ⟨stop, hstop, hle⟩ := h.stop_le entry hentry
  have hdue := h.stops entry hentry
  rw [hstop] at hdue
  have hstart : entry.start ≤ stop := by
    rw [Option.some.inj hdue]
    exact Nat.le_add_right _ _
  exact hstart.trans hle

namespace Repository

variable (repository : Repository)

/-- **The first failure in the order of calls ends a request.** It answers that failure, or none,
when the latest of the calls up to it has ended. All of these have been made; what else was made
began before that, or then as another call ended, and is dropped. With a window for one load at a
time nothing else is made, and the request is over with the call that fails. -/
theorem ends_at_first_failure :
    (∀ predicates request options, ∃ ended dropped,
      (repository.search predicates request options).EndsWith repository
        (repository.searchScript predicates request options) ended dropped) ∧
    (∀ id directives, ∃ ended dropped,
      (repository.getById id directives).EndsWith repository
        (repository.getByIdScript id directives) ended dropped) ∧
    (repository.window.width = 1 →
      (∀ predicates request options,
        (repository.search predicates request options).AbortsAtOnce repository.backend.outage) ∧
      ∀ id directives,
        (repository.getById id directives).AbortsAtOnce repository.backend.outage) := by
  refine ⟨repository.search_endsWith, repository.getById_endsWith, fun hwidth => ⟨?_, ?_⟩⟩
  · intro predicates request options
    obtain ⟨ended, dropped, hends⟩ := repository.search_endsWith predicates request options
    exact hends.abortsAtOnce hwidth (repository.fails_searchScript predicates request options)
  · intro id directives
    obtain ⟨ended, dropped, hends⟩ := repository.getById_endsWith id directives
    exact hends.abortsAtOnce hwidth (repository.fails_getByIdScript id directives)

end Repository

namespace TaggedTree

/-- The sample with slow nodes and no tags to be had. -/
def taglessRepository : Repository :=
  let slow := sampleRepository.timed sampleDelay .standard
  let outage (table : String) := if table = "tags" then some (Duration.mk 7) else none
  { slow with backend := { slow.backend with outage } }

/-- One at a time, the tag is asked for after all the parents, and its failure is the end. -/
theorem taglessRepository_ends :
    let narrow : Repository := { taglessRepository with window := .ofNat 1 }
    let outcome := narrow.search [] none ⟨some ⟨["parent.parent", "tag"]⟩, false⟩
    narrow.window.width = 1 ∧ outcome.AbortsAtOnce narrow.backend.outage ∧
    outcome.elapsed = 65 := by
  intro narrow outcome
  exact ⟨rfl, (narrow.ends_at_first_failure.2.2 rfl).1 _ _ _, by decide +kernel⟩

/-- The failure for the tag comes after 25 milliseconds. It is taken after the parents, and these go
on to their own parents at 40. -/
theorem taglessRepository_not_abortsAtOnce :
    ¬ (taglessRepository.search [] none ⟨some ⟨["parent.parent", "tag"]⟩, false⟩).AbortsAtOnce
      taglessRepository.backend.outage := by
  intro h
  let failed : Entry := ⟨⟨"tags", .select [idPredicate [.text "red"]] true⟩, 20, some 25⟩
  let later : Entry := ⟨⟨"nodes", .select [idPredicate [.integer 1]] true⟩, 40, some 60⟩
  have hfailed : failed ∈ (taglessRepository.search [] none
      ⟨some ⟨["parent.parent", "tag"]⟩, false⟩).log := by decide +kernel
  have hlater : later ∈ (taglessRepository.search [] none
      ⟨some ⟨["parent.parent", "tag"]⟩, false⟩).log := by decide +kernel
  have houtage : taglessRepository.backend.outage failed.call.table ≠ none := by decide
  obtain ⟨-, hstarts⟩ := h failed hfailed houtage 25 rfl
  have hstart : (40 : Nat) ≤ 25 := hstarts later hlater
  omega

end TaggedTree

end RecordSearch
