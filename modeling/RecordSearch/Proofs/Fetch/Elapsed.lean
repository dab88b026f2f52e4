import RecordSearch.Catalogue.TaggedTree
import RecordSearch.Proofs.Fetch.Chains
import RecordSearch.Proofs.Fetch.Timing

/-!
# Elapsed times

A wider window or faster tables never make a request slower. The reason is that results are taken
in one order, which neither changes: a level with the better timing takes each result no later, so
that each of its loads starts no later, and the first failure is the same one.
-/

namespace RecordSearch

namespace Taken

/-- Whether the results of one level are taken no later than those of another. -/
structure Before (one two : Taken) : Prop where
  opened : one.opened ≤ two.opened
  times : List.Forall₂ (· ≤ ·) one.times two.times

theorem getD_le_getD {early late : List Nat} (h : List.Forall₂ (· ≤ ·) early late) {a b : Nat}
    (hab : a ≤ b) (place : Nat) : early.getD place a ≤ late.getD place b := by
  induction h generalizing place with
  | nil => exact hab
  | cons hfirst _ ih =>
      cases place with
      | zero => exact hfirst
      | succ place => exact ih place

theorem Ordered.getD_le_getD {taken : Taken} (h : taken.Ordered) {one two : Nat}
    (hle : one ≤ two) :
    taken.times.getD two taken.opened ≤ taken.times.getD one taken.opened := by
  by_cases htwo : two < taken.times.length
  · have hone : one < taken.times.length := Nat.lt_of_le_of_lt hle htwo
    rw [List.getD_eq_getElem?_getD, List.getD_eq_getElem?_getD, List.getElem?_eq_getElem htwo,
      List.getElem?_eq_getElem hone]
    rcases Nat.eq_or_lt_of_le hle with rfl | hlt
    · exact le_rfl
    · exact List.pairwise_iff_getElem.1 (List.pairwise_append.1 h).1 one two hone htwo hlt
  · rw [List.getD_eq_getElem?_getD, List.getElem?_eq_none (Nat.le_of_not_lt htwo)]
    exact h.opened_le (taken.getD_mem one)

theorem latest_eq_getD (taken : Taken) : taken.latest = taken.times.getD 0 taken.opened := by
  unfold latest
  cases taken.times <;> rfl

section Before

variable {one two : Taken} (h : one.Before two)

theorem before_start {one two : Nat} (h : one ≤ two) : (start one).Before (start two) :=
  ⟨h, .nil⟩

include h

theorem Before.latest_le : one.latest ≤ two.latest := by
  rw [latest_eq_getD, latest_eq_getD]
  exact getD_le_getD h.times h.opened 0

theorem Before.push {early late : Run} (hfinish : early.finish ≤ late.finish) :
    (one.push early).Before (two.push late) :=
  have hlatest := h.latest_le
  ⟨h.opened, .cons (by omega) h.times⟩

/-- With more room the next load waits for an earlier one of results that are taken no later. -/
theorem Before.startOf_le (hordered : two.Ordered) {wide narrow : Window}
    (hwidth : narrow.width ≤ wide.width) : one.startOf wide 0 ≤ two.startOf narrow 0 := by
  have hplace : narrow.width - 1 - 0 ≤ wide.width - 1 - 0 := by omega
  rw [startOf, startOf, if_pos wide.pos, if_pos narrow.pos]
  calc one.times.getD (wide.width - 1 - 0) one.opened
      ≤ two.times.getD (wide.width - 1 - 0) two.opened := getD_le_getD h.times h.opened _
    _ ≤ two.times.getD (narrow.width - 1 - 0) two.opened := hordered.getD_le_getD hplace

end Before

end Taken

section Faster

variable {fast slow : String → Nat} {wide narrow : Window}

mutual

theorem script_load (fast slow : String → Nat) : ∀ fetch : Fetch,
    (fetch.load fast).script = (fetch.load slow).script
  | .mk relation call (.ok records) next => by
      rw [Fetch.load, Fetch.load, Load.script, Load.script, scripts_loads fast slow next]
  | .mk relation call (.error e) next => by
      rw [Fetch.load, Fetch.load, Load.script, Load.script]

theorem scripts_loads (fast slow : String → Nat) : ∀ fetches : List Fetch,
    Load.scripts (Fetch.loads fast fetches) = Load.scripts (Fetch.loads slow fetches)
  | [] => rfl
  | fetch :: rest => by
      rw [Fetch.loads, Fetch.loads, Load.scripts, Load.scripts, script_load fast slow fetch,
        scripts_loads fast slow rest]

end

mutual

theorem finish_load_le (hwidth : narrow.width ≤ wide.width)
    (hdelay : ∀ table, fast table ≤ slow table) :
    ∀ (fetch : Fetch) {early late : Nat}, early ≤ late →
      ((fetch.load fast).run wide early).finish ≤ ((fetch.load slow).run narrow late).finish
  | .mk _ call (.error _) _, _, _ => fun hstart => Nat.add_le_add hstart (hdelay call.table)
  | .mk _ call (.ok _) next, _, _ => fun hstart =>
      finish_loads_le hwidth hdelay next (Taken.before_start
        (Nat.add_le_add hstart (hdelay call.table))) (Taken.ordered_start _)

/-- A level that has taken its results no later, with more room and faster tables, is done no
later. -/
theorem finish_loads_le (hwidth : narrow.width ≤ wide.width)
    (hdelay : ∀ table, fast table ≤ slow table) :
    ∀ (fetches : List Fetch) {one two : Taken}, one.Before two → two.Ordered →
      (Load.runLevel wide one (Fetch.loads fast fetches)).finish ≤
        (Load.runLevel narrow two (Fetch.loads slow fetches)).finish
  | [], one, two => fun hbefore _ => hbefore.latest_le
  | fetch :: rest, one, two => by
      intro hbefore hordered
      let first := Load.runNext wide one (fetch.load fast)
      let second := Load.runNext narrow two (fetch.load slow)
      have hfinish : first.finish ≤ second.finish :=
        finish_load_le hwidth hdelay fetch (hbefore.startOf_le hordered hwidth)
      have hpushed : (Load.takeNext wide one (fetch.load fast)).Before
          (Load.takeNext narrow two (fetch.load slow)) := hbefore.push hfinish
      -- Which load fails is a matter of the script, which knows no delays.
      have hsame : first.failure = second.failure := by
        rw [Load.runNext_failure, Load.runNext_failure, script_load fast slow]
      rw [Fetch.loads, Fetch.loads]
      cases hfailure : second.failure with
      | none =>
          rw [Load.finish_cons_of_none (hsame.trans hfailure), Load.finish_cons_of_none hfailure]
          exact finish_loads_le hwidth hdelay rest hpushed (hordered.push _)
      | some e =>
          rw [Load.finish_cons_of_some (hsame.trans hfailure), Load.finish_cons_of_some hfailure]
          exact hpushed.latest_le

end

end Faster

/-- How long a request takes with room for one load at a time, and with room for all of them. -/
structure Outcome.Takes {α : Type} (repository : Repository) (load : Load)
    (outcome : Outcome α) : Prop where
  sum : repository.window.width = 1 →
    outcome.elapsed = Load.spent repository.backend.delay outcome.log
  longest : ∀ answer, outcome.result = .ok answer → load.Fits repository.window.width →
    IsGreatest {total | ∃ calls, load.Chain calls ∧
      total = Load.along repository.backend.delay calls} outcome.elapsed

theorem Outcome.takes_of_run {α : Type} {repository : Repository} {load : Load}
    {outcome : Outcome α} (hrun : outcome.run = load.run repository.window 0)
    (hpaced : load.Paced repository.backend.delay) : outcome.Takes repository load := by
  have hlog : outcome.log = (load.run repository.window 0).log := congrArg Run.log hrun
  have helapsed : outcome.elapsed = (load.run repository.window 0).finish :=
    congrArg Run.finish hrun
  constructor
  · intro hwidth
    rw [helapsed, hlog, Load.finish_run_of_width_eq_one hwidth 0 load hpaced, Nat.zero_add]
  · intro answer hanswer hfits
    have hnone : (load.run repository.window 0).failure = none := by
      rw [← hrun, Outcome.run, hanswer]
      rfl
    rw [helapsed]
    exact Load.isGreatest_chain hpaced hfits hnone

namespace Repository

variable (repository : Repository)

section Faster

variable {fast slow : String → Nat} {wide narrow : Window}

theorem finish_requestLoad_le {α : Type} (call : Call) (first : Except StoreError α)
    (fetches : α → List Fetch) (hwidth : narrow.width ≤ wide.width)
    (hdelay : ∀ table, fast table ≤ slow table) :
    ((requestLoad fast call first fetches).run wide 0).finish ≤
      ((requestLoad slow call first fetches).run narrow 0).finish := by
  have hcall : 0 + fast call.table ≤ 0 + slow call.table := Nat.add_le_add_left (hdelay _) 0
  cases first with
  | error e => exact hcall
  | ok found =>
      exact finish_loads_le hwidth hdelay (fetches found) (Taken.before_start hcall)
        (Taken.ordered_start _)

theorem search_elapsed_le (hwidth : narrow.width ≤ wide.width)
    (hdelay : ∀ table, fast table ≤ slow table) (predicates : List Predicate)
    (request : Option PageRequest) (options : RequestOptions) :
    ((repository.timed fast wide).search predicates request options).elapsed ≤
      ((repository.timed slow narrow).search predicates request options).elapsed := by
  have hload (delay : String → Nat) (window : Window) :
      (repository.timed delay window).searchLoad predicates request options =
        requestLoad delay
          ⟨repository.source.entity.table, .select predicates options.skipPaging⟩
          (repository.backend.select repository.source.entity predicates request
            options.skipPaging)
          fun found => repository.plan options.directives found.1 := by
    simp only [searchLoad, plan_timed]
    rfl
  rw [search_elapsed, search_elapsed, hload, hload]
  exact finish_requestLoad_le _ _ _ hwidth hdelay

theorem getById_elapsed_le (hwidth : narrow.width ≤ wide.width)
    (hdelay : ∀ table, fast table ≤ slow table) (id : Value) (directives : Option Directives) :
    ((repository.timed fast wide).getById id directives).elapsed ≤
      ((repository.timed slow narrow).getById id directives).elapsed := by
  have hload (delay : String → Nat) (window : Window) :
      (repository.timed delay window).getByIdLoad id directives =
        requestLoad delay ⟨repository.source.entity.table, .byId id⟩
          (repository.backend.selectById repository.source.entity id)
          fun found => repository.plan directives found.toList := by
    simp only [getByIdLoad, plan_timed]
    rfl
  rw [getById_elapsed, getById_elapsed, hload, hload]
  exact finish_requestLoad_le _ _ _ hwidth hdelay

end Faster

theorem fits_requestLoad {α : Type} {width : Nat} {call : Call} {first : Except StoreError α}
    {directives : Option Directives} {records : α → List Record}
    (h : repository.source.Fits width) :
    (requestLoad repository.backend.delay call first
      fun found => repository.plan directives (records found)).Fits width := by
  cases first with
  | error e => exact fits_of_next_eq_nil rfl
  | ok found =>
      cases directives with
      | none => exact fits_of_next_eq_nil rfl
      | some directives =>
          obtain ⟨hlength, hloads⟩ := fits_plan h
          exact .mk hlength hloads

/-- **No request is slower for more room or faster tables.** It takes no longer, whether it
succeeds or fails. With room for one load at a time it takes the sum of the delays of its calls.
When it succeeds and has room for every level, it takes the largest sum of delays along a chain of
calls; the relations of the entities bound how much room that is. -/
theorem elapsed_takes :
    (∀ fast slow wide narrow, narrow.width ≤ wide.width → (∀ table, fast table ≤ slow table) →
      (∀ predicates request options,
        ((repository.timed fast wide).search predicates request options).elapsed ≤
          ((repository.timed slow narrow).search predicates request options).elapsed) ∧
      ∀ id directives,
        ((repository.timed fast wide).getById id directives).elapsed ≤
          ((repository.timed slow narrow).getById id directives).elapsed) ∧
    (∀ predicates request options,
      (repository.search predicates request options).Takes repository
        (repository.searchLoad predicates request options)) ∧
    (∀ id directives,
      (repository.getById id directives).Takes repository
        (repository.getByIdLoad id directives)) ∧
    ∀ width, repository.source.Fits width →
      (∀ predicates request options,
        (repository.searchLoad predicates request options).Fits width) ∧
      ∀ id directives, (repository.getByIdLoad id directives).Fits width := by
  refine ⟨?_, ?_, ?_, ?_⟩
  · intro fast slow wide narrow hwidth hdelay
    exact ⟨repository.search_elapsed_le hwidth hdelay,
      repository.getById_elapsed_le hwidth hdelay⟩
  · intro predicates request options
    exact Outcome.takes_of_run search_run paced_searchLoad
  · intro id directives
    exact Outcome.takes_of_run getById_run paced_getByIdLoad
  · intro width hfits
    exact ⟨fun _ _ _ => repository.fits_requestLoad hfits,
      fun _ _ => repository.fits_requestLoad hfits⟩

end Repository

namespace TaggedTree

theorem fits_nodesTo {width : Nat} (h : 3 ≤ width) (levels : Nat) :
    (nodesTo levels).Fits width := by
  have htags : tags.Fits width := .mk (Nat.zero_le _) (by simp)
  induction levels with
  | zero => exact .mk (Nat.le_of_succ_le h) (by simp [tagRelations, htags])
  | succ levels ih => exact .mk h (by simp [tagRelations, htags, ih])

end TaggedTree

namespace Repository

/-- The parent and the tag of a node, one after the other and beside each other. -/
theorem sampleRepository_elapsed :
    let slow := TaggedTree.sampleRepository.timed TaggedTree.sampleDelay (.ofNat 1)
    let fast := TaggedTree.sampleRepository.timed TaggedTree.sampleDelay .standard
    let options : RequestOptions := ⟨some ⟨["parent", "tag"]⟩, false⟩
    let load := fast.searchLoad [] none options
    (slow.search [] none options).elapsed = 45 ∧ (fast.search [] none options).elapsed = 40 ∧
    (fast.search [] none options).elapsed ≤ (slow.search [] none options).elapsed ∧
    (slow.search [] none options).elapsed =
      Load.spent TaggedTree.sampleDelay (slow.search [] none options).log ∧
    IsGreatest {total | ∃ calls, load.Chain calls ∧
      total = Load.along TaggedTree.sampleDelay calls} (fast.search [] none options).elapsed := by
  intro slow fast options load
  have hnone : (fast.searchScript [] none options).findSome? (·.failure) = none := by
    decide +kernel
  obtain ⟨found, -, hresult⟩ := search_result_of_none hnone
  have hfits : fast.source.Fits 8 := TaggedTree.fits_nodesTo (by decide) 5
  refine ⟨by decide +kernel, by decide +kernel, ?_, ?_, ?_⟩
  · exact (TaggedTree.sampleRepository.elapsed_takes.1 _ _ .standard (.ofNat 1) (by decide)
      fun _ => le_rfl).1 [] none options
  · exact (slow.elapsed_takes.2.1 [] none options).sum rfl
  · exact (fast.elapsed_takes.2.1 [] none options).longest _ hresult
      ((fast.elapsed_takes.2.2.2 8 hfits).1 [] none options)

end Repository

end RecordSearch
