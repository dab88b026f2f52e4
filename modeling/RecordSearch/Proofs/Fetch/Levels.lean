import RecordSearch.Catalogue.TaggedTree
import RecordSearch.Proofs.Fetch.NamedPaths
import RecordSearch.Proofs.Fetch.Queue
import RecordSearch.Proofs.Fetch.Requests
import RecordSearch.Proofs.Fetch.Timing

/-!
# Schedules of levels

A level is a batch of records with the directives for it. Its loads, one for each relation that the
directives ask for, pass through a bounded queue: this is what decides when each of them starts. A
load is its call and, when that has ended, the level for the records that it brought, so the same
holds for every level of a request down to the last.
-/

namespace RecordSearch

namespace Taken

/-- The instants at which results are taken, the latest first, when those in `past` were taken
before and the others end as given. -/
def takeAll (opened : Nat) : (past ends : List Nat) → List Nat
  | past, [] => past
  | past, finish :: ends => takeAll opened (max (past.headD opened) finish :: past) ends

theorem exists_takeAll_eq_append (opened : Nat) (past ends : List Nat) :
    ∃ front, front.length = ends.length ∧ takeAll opened past ends = front ++ past := by
  induction ends generalizing past with
  | nil => exact ⟨[], rfl, rfl⟩
  | cons finish ends ih =>
      obtain ⟨front, hlength, htimes⟩ := ih (max (past.headD opened) finish :: past)
      refine ⟨front ++ [max (past.headD opened) finish], by simp [hlength], ?_⟩
      rw [takeAll, htimes, List.append_assoc]
      rfl

theorem takeAll_concat (opened : Nat) (past ends : List Nat) (finish : Nat) :
    takeAll opened past (ends ++ [finish]) =
      max ((takeAll opened past ends).headD opened) finish :: takeAll opened past ends := by
  induction ends generalizing past with
  | nil => rfl
  | cons first ends ih => exact ih _

/-- The next load starts when the results but for those that still hold a place are taken. -/
theorem startOf_of_takeAll {taken : Taken} {window : Window} {past inside : List Nat}
    (htimes : taken.times = takeAll taken.opened past inside) (hfree : inside.length < window.width)
    (hfull : past = [] ∨ inside.length + 1 = window.width) :
    taken.startOf window 0 = past.headD taken.opened := by
  obtain ⟨front, hlength, hfront⟩ := exists_takeAll_eq_append taken.opened past inside
  rw [startOf, if_pos window.pos, htimes, hfront, List.getD_eq_getElem?_getD]
  rcases hfull with rfl | hfull
  · have hbeyond : (front ++ []).length ≤ window.width - 1 - 0 := by
      rw [List.append_nil, hlength]
      omega
    rw [List.getElem?_eq_none hbeyond]
    rfl
  · have hplace : window.width - 1 - 0 = front.length := by omega
    rw [hplace, List.getElem?_append_right (Nat.le_refl _), Nat.sub_self]
    cases past <;> rfl

end Taken

namespace Load

/-- When the loads of a level start and when their results are there. -/
def spans (window : Window) (taken : Taken) : List Load → List Span
  | [] => []
  | load :: rest =>
    ⟨taken.startOf window 0, (runNext window taken load).finish⟩ ::
      spans window (takeNext window taken load) rest

/-- A load as a job for a queue. -/
def job (window : Window) (load : Load) (start : Nat) : Nat :=
  (run window start load).finish

theorem serves_nil (width opened : Nat) (past inside : List Nat) :
    Queue.Serves width (past.headD opened) inside [] []
      ((Taken.takeAll opened past inside).headD opened) := by
  induction inside generalizing past with
  | nil => exact .idle
  | cons finish inside ih =>
      exact .leave (Or.inl rfl) (ih (max (past.headD opened) finish :: past))

/-- **A level is a queue.** With `inside` the ends of the loads that hold a place, in order. -/
theorem serves_spans (window : Window) (loads : List Load) (taken : Taken) (past inside : List Nat)
    (htimes : taken.times = Taken.takeAll taken.opened past inside)
    (hfree : inside.length < window.width)
    (hfull : past = [] ∨ inside.length + 1 = window.width)
    (hnone : (runLevel window taken loads).failure = none) :
    Queue.Serves window.width (past.headD taken.opened) inside (loads.map (job window))
      (spans window taken loads) (runLevel window taken loads).finish := by
  induction loads generalizing taken past inside with
  | nil =>
      have hlatest : (runLevel window taken []).finish =
          (Taken.takeAll taken.opened past inside).headD taken.opened := by
        rw [← htimes]
        rfl
      rw [hlatest]
      exact serves_nil _ _ _ _
  | cons load rest ih =>
      have hstart := Taken.startOf_of_takeAll htimes hfree hfull
      have hnext : runNext window taken load = run window (past.headD taken.opened) load := by
        rw [runNext, hstart]
      rw [failure_cons, Option.or_eq_none_iff] at hnone
      obtain ⟨hfirst, hnone⟩ := hnone
      have hpush : (takeNext window taken load).times = Taken.takeAll taken.opened past
          (inside ++ [job window load (past.headD taken.opened)]) := by
        rw [Taken.takeAll_concat, ← htimes, job, ← hnext]
        rfl
      rw [finish_cons_of_none hfirst, spans, hstart, hnext]
      refine .enter hfree ?_
      by_cases hroom : inside.length + 1 < window.width
      · have hpast : past = [] := hfull.resolve_right (Nat.ne_of_lt hroom)
        exact ih _ _ _ hpush (by simpa using hroom) (Or.inl hpast) hnone
      · -- The queue is full: its first job has to leave before the next can enter.
        have hlength : (inside ++ [job window load (past.headD taken.opened)]).length =
            window.width := by
          simp
          omega
        cases hinside : inside ++ [job window load (past.headD taken.opened)] with
        | nil => simp at hinside
        | cons finish others =>
            rw [hinside] at hpush hlength
            have hothers : others.length + 1 = window.width := hlength
            exact .leave (Or.inr hothers)
              (ih _ (max (past.headD taken.opened) finish :: past) _ hpush (by omega)
                (Or.inr hothers) hnone)

theorem serves_start (window : Window) (opened : Nat) {loads : List Load}
    (hnone : (runLevel window (.start opened) loads).failure = none) :
    Queue.Serves window.width opened [] (loads.map (job window))
      (spans window (.start opened) loads) (runLevel window (.start opened) loads).finish :=
  serves_spans window loads (.start opened) [] [] rfl window.pos (Or.inl rfl) hnone

theorem le_job (window : Window) (loads : List Load) :
    ∀ ends ∈ loads.map (job window), ∀ start, start ≤ ends start := by
  intro ends hends start
  obtain ⟨load, -, rfl⟩ := List.mem_map.1 hends
  exact (Nat.le_add_right _ _).trans (start_add_duration_le_finish window start load)

end Load

/-- A batch of records, the directives for it, and when the records were there. -/
structure Level where
  source : Source
  directives : Directives
  records : List Record
  opened : Nat

namespace Level

variable (backend : Backend) (window : Window) (level : Level)

def loads : List Load :=
  Fetch.loads backend.delay (level.source.plan backend level.directives level.records)

def run : Run :=
  Load.runLevel window (.start level.opened) (level.loads backend)

/-- The relations that a batch asks for, in their order. -/
def requested : List (Relation × Source) :=
  if level.records.isEmpty then []
  else level.source.relations.filter fun relation =>
    (level.directives.seek relation.1.name).isSome

/-- How one relation was loaded: by a call for the keys of the batch and, when that had ended, by
the level for what it brought. -/
def Loads (relation : Relation × Source) (span : Span) (log : List Entry) : Prop :=
  ∃ reduced children paging,
    level.directives.seek relation.1.name = some reduced ∧
    backend.select relation.2.entity [idPredicate (relation.1.keys level.records)] none true =
      .ok (children, paging) ∧
    let below : Level :=
      ⟨relation.2, reduced, children, span.start + backend.delay relation.2.entity.table⟩
    (below.run backend window).failure = none ∧
    span.finish = (below.run backend window).finish ∧
    log = ⟨relatedCall relation.2.entity (relation.1.keys level.records), span.start,
      some below.opened⟩ :: (below.run backend window).log

/-- What the loads of a level do, each given by when it started, when its result was there, and its
calls. -/
structure Scheduled (runs : List (Span × List Entry)) : Prop where
  loads : List.Forall₂ (fun relation run => level.Loads backend window relation run.1 run.2)
    level.requested runs
  log : (level.run backend window).log = (runs.map (·.2)).flatten
  serves : Queue.Serves window.width level.opened [] ((level.loads backend).map (Load.job window))
    (runs.map (·.1)) (level.run backend window).finish
  start_of_lt : ∀ place (hplace : place < runs.length), place < window.width →
    runs[place].1.start = level.opened
  start_of_le : ∀ place (hplace : place < runs.length), window.width ≤ place →
    IsGreatest {finish | finish ∈ (runs.map (·.1.finish)).take (place - window.width + 1)}
      runs[place].1.start
  running : ∀ instant,
    runs.countP (fun run => run.1.start ≤ instant ∧ instant < run.1.finish) ≤ window.width
  finish : runs ≠ [] →
    IsGreatest {finish | finish ∈ runs.map (·.1.finish)} (level.run backend window).finish

variable {backend window level}

theorem exists_loads_planRelations (directives : Directives) (parents : List Record) (opened : Nat)
    (source : Source) (relations : List (Relation × Source)) (taken : Taken)
    (hnone : (Load.runLevel window taken (Fetch.loads backend.delay
      (planRelations backend directives parents relations))).failure = none) :
    ∃ runs : List (Span × List Entry),
      runs.map (·.1) = Load.spans window taken (Fetch.loads backend.delay
        (planRelations backend directives parents relations)) ∧
      List.Forall₂ (fun relation run =>
        (Level.mk source directives parents opened).Loads backend window relation run.1 run.2)
        (relations.filter fun relation => (directives.seek relation.1.name).isSome) runs ∧
      (Load.runLevel window taken (Fetch.loads backend.delay
        (planRelations backend directives parents relations))).log = (runs.map (·.2)).flatten := by
  induction relations generalizing taken with
  | nil => exact ⟨[], rfl, .nil, rfl⟩
  | cons head rest ih =>
      obtain ⟨relation, below⟩ := head
      cases hseek : directives.seek relation.name with
      | none =>
          rw [planRelations_cons_of_none hseek] at hnone ⊢
          simpa [hseek] using ih taken hnone
      | some reduced =>
          cases hfound : backend.select below.entity [idPredicate (relation.keys parents)] none
              true with
          | error e =>
              rw [planRelations_cons_of_error hseek hfound, Fetch.loads, Fetch.load,
                Load.failure_cons, Load.runNext, Load.run_failure_mk] at hnone
              simp at hnone
          | ok found =>
              rw [planRelations_cons_of_ok hseek hfound, Fetch.loads, Fetch.load] at hnone ⊢
              rw [Load.failure_cons, Option.or_eq_none_iff] at hnone
              obtain ⟨hfirst, hnone⟩ := hnone
              obtain ⟨runs, hspans, hloads, hlog⟩ := ih _ hnone
              rw [Load.log_cons_of_none hfirst]
              let load : Load := .mk (relatedCall below.entity (relation.keys parents))
                (backend.delay below.entity.table) none
                (Fetch.loads backend.delay (below.plan backend reduced found.1))
              let first := Load.runNext window taken load
              refine ⟨(⟨taken.startOf window 0, first.finish⟩, first.log) :: runs, ?_, ?_, ?_⟩
              · rw [List.map_cons, hspans]
                rfl
              · rw [List.filter_cons_of_pos (by simp [hseek])]
                refine .cons ⟨reduced, found.1, found.2, hseek, hfound, ?_, rfl, rfl⟩ hloads
                rw [Load.runNext, Load.run_failure_mk, Option.none_or] at hfirst
                exact hfirst
              · rw [List.map_cons, List.flatten_cons, hlog]
                rfl

theorem exists_loads (hnone : (level.run backend window).failure = none) :
    ∃ runs : List (Span × List Entry),
      runs.map (·.1) = Load.spans window (.start level.opened) (level.loads backend) ∧
      List.Forall₂ (fun relation run => level.Loads backend window relation run.1 run.2)
        level.requested runs ∧
      (level.run backend window).log = (runs.map (·.2)).flatten := by
  obtain ⟨⟨entity, relations⟩, directives, records, opened⟩ := level
  simp only [run, loads, requested, Source.plan, Source.relations] at hnone ⊢
  split
  · exact ⟨[], by simp [Fetch.loads, Load.spans], .nil, by simp [Fetch.loads, Load.runLevel]⟩
  · rename_i hrecords
    rw [if_neg hrecords] at hnone
    exact exists_loads_planRelations directives records opened (.mk entity relations) relations _
      hnone

theorem exists_scheduled (hnone : (level.run backend window).failure = none) :
    ∃ runs, level.Scheduled backend window runs := by
  obtain ⟨runs, hspans, hloads, hlog⟩ := exists_loads hnone
  have hserves : Queue.Serves window.width level.opened []
      ((level.loads backend).map (Load.job window)) (runs.map (·.1))
      (level.run backend window).finish := by
    rw [hspans]
    exact Load.serves_start window level.opened hnone
  have hjobs := Load.le_job window (level.loads backend)
  have hfinishes : (runs.map (·.1)).map (·.finish) = runs.map (·.1.finish) := List.map_map
  refine ⟨runs, hloads, hlog, hserves, fun place hplace hlt => ?_, fun place hplace hle => ?_,
    fun instant => ?_, fun hne => ?_⟩
  · have hstart := hserves.start_of_lt (by simpa using hplace) hlt
    rw [List.getElem_map] at hstart
    exact hstart
  · have hgreatest := hserves.isGreatest_start_of_le hjobs (by simpa using hplace) hle
    rw [hfinishes, List.getElem_map] at hgreatest
    exact hgreatest
  · have hcount := hserves.countP_le_width instant
    rw [List.countP_map] at hcount
    exact hcount
  · have hgreatest := hserves.isGreatest_done hjobs (by simpa using hne)
    rw [hfinishes] at hgreatest
    exact hgreatest

end Level

namespace Repository

variable (repository : Repository)

/-- The level for the records that the first call of a request brought. -/
def topLevel (directives : Option Directives) (records : List Record) : Level :=
  ⟨repository.source, directives.getD ⟨[]⟩, records,
    repository.backend.delay repository.source.entity.table⟩

/-- A request that succeeds is its first call and then the level for what that brought. -/
structure Continues {α : Type} (call : Call) (level : Level) (outcome : Outcome α) : Prop where
  succeeds : (level.run repository.backend repository.window).failure = none
  log : outcome.log =
    ⟨call, 0, some level.opened⟩ :: (level.run repository.backend repository.window).log
  elapsed : outcome.elapsed = (level.run repository.backend repository.window).finish

theorem continues_of_respond {α β : Type} {call : Call} {first : Except StoreError α}
    {directives : Option Directives} {records : α → List Record} {finish : α → β} {answer : β}
    (hcall : call.table = repository.source.entity.table)
    (h : (repository.respond call first (fun found => repository.plan directives (records found))
      finish).result = .ok answer) :
    ∃ found, first = .ok found ∧
      repository.Continues call (repository.topLevel directives (records found))
        (repository.respond call first
          (fun found => repository.plan directives (records found)) finish) := by
  have hrun := repository.respond_run call first
    (fun found => repository.plan directives (records found)) finish
  have hnone : ((requestLoad repository.backend.delay call first fun found =>
      repository.plan directives (records found)).run repository.window 0).failure = none := by
    rw [← hrun, Outcome.run, h]
    rfl
  obtain ⟨found, rfl⟩ : ∃ found, first = .ok found := by
    cases first with
    | error e => simp [respond] at h
    | ok found => exact ⟨found, rfl⟩
  have hlevel : (repository.topLevel directives (records found)).run repository.backend
      repository.window = Load.runLevel repository.window
        (.start (0 + repository.backend.delay call.table))
        (Fetch.loads repository.backend.delay (repository.plan directives (records found))) := by
    rw [Nat.zero_add, hcall, plan_eq_plan_getD]
    rfl
  have hopened : (repository.topLevel directives (records found)).opened =
      0 + repository.backend.delay call.table := by
    rw [Nat.zero_add, hcall]
    rfl
  refine ⟨found, rfl, hlevel ▸ hnone, ?_, ?_⟩
  · rw [hlevel, hopened]
    exact congrArg Run.log hrun
  · rw [hlevel]
    exact congrArg Run.finish hrun

/-- **The start rule.** In a request that succeeds the first call is followed by a level, and so is
every call of a level. Of the loads of a level, one for each relation that is asked for, as many
as the window is wide start when the level opens, each later one at the latest end of those up to
the one that many before it. No more than that many are running at any instant, and the level is
done with the last of them. -/
theorem levels_scheduled :
    (∀ predicates request options page,
      (repository.search predicates request options).result = .ok page →
      ∃ found, repository.backend.select repository.source.entity predicates request
          options.skipPaging = .ok found ∧
        repository.Continues ⟨repository.source.entity.table,
          .select predicates options.skipPaging⟩
          (repository.topLevel options.directives found.1)
          (repository.search predicates request options)) ∧
    (∀ id directives answer,
      (repository.getById id directives).result = .ok answer →
      ∃ found, repository.backend.selectById repository.source.entity id = .ok found ∧
        repository.Continues ⟨repository.source.entity.table, .byId id⟩
          (repository.topLevel directives found.toList) (repository.getById id directives)) ∧
    ∀ level : Level, (level.run repository.backend repository.window).failure = none →
      ∃ runs, level.Scheduled repository.backend repository.window runs := by
  refine ⟨?_, ?_, fun level hnone => Level.exists_scheduled hnone⟩
  · intro predicates request options page hpage
    exact repository.continues_of_respond rfl hpage
  · intro id directives answer hanswer
    exact repository.continues_of_respond rfl hanswer

/-- With room for two, the third relation waits for the parents and not for the first tag. -/
theorem sampleRepository_levels :
    let slow := TaggedTree.sampleRepository.timed TaggedTree.sampleDelay (.ofNat 2)
    let directives : Directives := ⟨["parent", "tag", "tag_alt"]⟩
    let outcome := slow.search [] none ⟨some directives, false⟩
    (outcome.log.map fun entry => (entry.call.table, entry.start, entry.stop)) =
      [("nodes", 0, some 20), ("nodes", 20, some 40), ("tags", 20, some 25),
        ("tags", 40, some 45)] ∧
    ∃ found, slow.Continues ⟨"nodes", .select [] false⟩ (slow.topLevel (some directives) found)
        outcome ∧
      ∃ runs, (slow.topLevel (some directives) found).Scheduled slow.backend slow.window runs := by
  intro slow directives outcome
  have hnone : (slow.searchScript [] none ⟨some directives, false⟩).findSome? (·.failure) =
      none := by decide +kernel
  obtain ⟨found, -, hresult⟩ := search_result_of_none hnone
  obtain ⟨first, -, hcontinues⟩ := slow.levels_scheduled.1 _ _ _ _ hresult
  exact ⟨by decide +kernel, first.1, hcontinues,
    slow.levels_scheduled.2.2 _ hcontinues.succeeds⟩

end Repository

end RecordSearch
