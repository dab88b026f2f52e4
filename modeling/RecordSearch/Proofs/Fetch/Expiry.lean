import Mathlib.Data.List.Forall2
import RecordSearch.Catalogue.TaggedTree
import RecordSearch.Proofs.Fetch.Progress
import RecordSearch.Proofs.Fetch.Timing
import RecordSearch.Service

/-!
# Requests that are dropped

A request under a deadline is followed up to the deadline and dropped then, unless it is done. It is
shown that this cuts the request short and changes nothing else: what comes of it is the outcome
without a deadline, or what of that lies before the deadline.
-/

namespace RecordSearch

/-- The outcome of a request that is dropped at its deadline, by how far its load has come then. -/
def Progress.outcome {α : Type} (deadline : Duration)
    (answer : Option StoreError → Except StoreError α) : Progress → Outcome α
  | .done run => ⟨answer run.failure, run.finish, run.log⟩
  | .underWay log => ⟨.error (.timeout deadline), deadline.millis, log⟩

/-- A call that is left of another at a deadline: it has its end if it came by then. -/
structure Entry.IsCut (deadline : Nat) (whole kept : Entry) : Prop where
  call_eq : kept.call = whole.call
  start_eq : kept.start = whole.start
  stop_iff : ∀ time, kept.stop = some time ↔ whole.stop = some time ∧ time ≤ deadline

/-- What a deadline leaves of an outcome: all of it, or an error at the deadline and the calls that
had been made by then. -/
structure Outcome.IsCut {α : Type} (deadline : Duration) (whole kept : Outcome α) : Prop where
  eq_of_le : whole.elapsed ≤ deadline.millis → kept = whole
  result_of_lt : deadline.millis < whole.elapsed → kept.result = .error (.timeout deadline)
  elapsed_of_lt : deadline.millis < whole.elapsed → kept.elapsed = deadline.millis
  log_of_lt : deadline.millis < whole.elapsed → List.Forall₂ (Entry.IsCut deadline.millis)
    (whole.log.filter fun entry => entry.start ≤ deadline.millis) kept.log

theorem forall₂_truncateLog (deadline : Nat) (log : List Entry) :
    List.Forall₂ (Entry.IsCut deadline) (log.filter fun entry => entry.start ≤ deadline)
      (truncateLog deadline log) := by
  rw [truncateLog, cutBy, List.forall₂_map_right_iff, List.forall₂_same]
  intro entry _
  exact ⟨rfl, rfl, fun time => by simp [Option.filter_eq_some_iff]⟩

theorem Outcome.isCut_within {α : Type} (outcome : Outcome α) (deadline : Duration) :
    outcome.IsCut deadline (outcome.within deadline) := by
  by_cases hkept : outcome.elapsed ≤ deadline.millis
  · rw [Outcome.within, if_pos hkept]
    have hlate : ¬ deadline.millis < outcome.elapsed := Nat.not_lt.2 hkept
    exact ⟨fun _ => rfl, fun h => absurd h hlate, fun h => absurd h hlate,
      fun h => absurd h hlate⟩
  · rw [Outcome.within, if_neg hkept]
    exact ⟨fun h => absurd h hkept, fun _ => rfl, fun _ => rfl,
      fun _ => forall₂_truncateLog _ _⟩

namespace Repository

section Respond

variable {α β : Type} (repository : Repository) (deadline : Duration) (call : Call)
  (first : Except StoreError α) (fetches : α → List Fetch) (finish : α → β)

/-- Follows a request up to its deadline. -/
def respondUntil : Outcome β :=
  let load := requestLoad repository.backend.delay call first fetches
  (load.progress repository.window deadline.millis 0).outcome deadline fun failure =>
    match failure with
    | some e => .error e
    | none => first.map finish

theorem respond_result :
    (repository.respond call first fetches finish).result =
      match ((requestLoad repository.backend.delay call first fetches).run
        repository.window 0).failure with
      | some e => .error e
      | none => first.map finish := by
  cases first with
  | error e => rfl
  | ok found =>
      simp only [respond, requestLoad]
      generalize Load.run _ _ _ = run
      cases run.failure with
      | none => rfl
      | some e => rfl

/-- A request that is followed up to its deadline comes to what is left of its outcome then. -/
theorem respondUntil_eq :
    repository.respondUntil deadline call first fetches finish =
      (repository.respond call first fetches finish).within deadline := by
  have hrun := repository.respond_run call first fetches finish
  have hresult := repository.respond_result call first fetches finish
  rw [respondUntil, Load.progress_eq _ (Nat.zero_le _)]
  rw [← hrun] at hresult ⊢
  generalize repository.respond call first fetches finish = outcome at hresult ⊢
  have hseen : outcome.run.seenAt deadline.millis =
      if outcome.elapsed ≤ deadline.millis then .done outcome.run
      else .underWay (truncateLog deadline.millis outcome.log) := rfl
  rw [hseen, Outcome.within]
  split
  · exact congrArg (Outcome.mk · _ _) hresult.symm
  · rfl

end Respond

def searchUntil (repository : Repository) (deadline : Duration) (predicates : List Predicate)
    (request : Option PageRequest) (options : RequestOptions) : Outcome RecordPage :=
  let entity := repository.source.entity
  let fetches := repository.plan options.directives
  repository.respondUntil deadline
    ⟨entity.table, .select predicates options.skipPaging⟩
    (repository.backend.select entity predicates request options.skipPaging)
    (fun found => fetches found.1)
    (fun found => ⟨Fetch.attachAll (fetches found.1) found.1, found.2⟩)

def getByIdUntil (repository : Repository) (deadline : Duration) (id : Value)
    (directives : Option Directives) : Outcome (Option Record) :=
  let entity := repository.source.entity
  let fetches (found : Option Record) := repository.plan directives found.toList
  repository.respondUntil deadline
    ⟨entity.table, .byId id⟩
    (repository.backend.selectById entity id)
    fetches
    (fun found => (Fetch.attachAll (fetches found) found.toList).head?)

/-- **A deadline only truncates.** Under the deadline of a service a request comes to what it comes
to when it is followed up to then and dropped: to its outcome without a deadline if that is there in
time, and otherwise to an error at the deadline, after just the calls that the request without a
deadline makes by then, each with its end if it came by then. -/
theorem withinDeadline_cuts {Kind : Type} {Item : Kind → Type} (service : Service Kind Item)
    (repository : Repository) :
    (∀ predicates request options,
      let whole := repository.search predicates request options
      let kept := repository.searchUntil service.requestTimeout predicates request options
      service.withinDeadline whole = kept ∧ whole.IsCut service.requestTimeout kept) ∧
    ∀ id directives,
      let whole := repository.getById id directives
      let kept := repository.getByIdUntil service.requestTimeout id directives
      service.withinDeadline whole = kept ∧ whole.IsCut service.requestTimeout kept := by
  constructor
  · intro predicates request options whole kept
    have hkept : kept = whole.within service.requestTimeout := respondUntil_eq _ _ _ _ _ _
    exact ⟨hkept.symm, hkept ▸ whole.isCut_within _⟩
  · intro id directives whole kept
    have hkept : kept = whole.within service.requestTimeout := respondUntil_eq _ _ _ _ _ _
    exact ⟨hkept.symm, hkept ▸ whole.isCut_within _⟩

-- The parents are dropped, and so is what they would lead on to.
example :
    let slow := TaggedTree.sampleRepository.timed TaggedTree.sampleDelay .standard
    let kept := slow.searchUntil ⟨30⟩ [] none ⟨some ⟨["parent.parent", "tag"]⟩, false⟩
    kept.elapsed = 30 ∧
    kept.log.map (fun entry => (entry.call.table, entry.start, entry.stop)) =
      [("nodes", 0, some 20), ("nodes", 20, none), ("tags", 20, some 25)] := by
  decide +kernel

end Repository

end RecordSearch
