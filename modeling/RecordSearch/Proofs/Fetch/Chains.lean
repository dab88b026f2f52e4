import Mathlib.Algebra.GroupWithZero.Nat
import Mathlib.Order.Bounds.Defs
import RecordSearch.Proofs.Fetch.Requests

/-!
# Chains of calls

How long a run takes at both ends of the range of windows. With a window for one load at a time the
calls are made one after another, and the run takes the sum of their delays. With a window that has
room for every level each load starts when its level opens, and a run without failure takes the
largest sum of delays along a chain of calls, each of them for what the one before it brought.
-/

namespace RecordSearch

namespace Load

variable {delay : String → Nat} {window : Window}

/-! ### One at a time -/

/-- The delays of the calls of a log, one after another. -/
def spent (delay : String → Nat) (log : List Entry) : Nat :=
  (log.map fun entry => delay entry.call.table).sum

theorem spent_cons (entry : Entry) (log : List Entry) :
    spent delay (entry :: log) = delay entry.call.table + spent delay log := by
  simp [spent]

theorem spent_append (front back : List Entry) :
    spent delay (front ++ back) = spent delay front + spent delay back := by
  simp [spent]

mutual

theorem finish_run_of_width_eq_one (hwidth : window.width = 1) (start : Nat) :
    ∀ load : Load, load.Paced delay →
      (run window start load).finish = start + spent delay (run window start load).log
  | .mk call duration (some e) next => by
      intro hpaced
      cases hpaced
      simp [run, spent]
  | .mk call duration none next => by
      intro hpaced
      cases hpaced with
      | mk hnext =>
          have hbelow := finish_runLevel_of_width_eq_one hwidth next
            (.start (start + delay call.table)) hnext
          calc (run window start (.mk call (delay call.table) none next)).finish
              = (runLevel window (.start (start + delay call.table)) next).finish := rfl
            _ = start + delay call.table +
                  spent delay (runLevel window (.start (start + delay call.table)) next).log :=
                hbelow
            _ = start +
                  spent delay (run window start (.mk call (delay call.table) none next)).log := by
                rw [run, spent_cons, Nat.add_assoc]

/-- Each load of a level starts with the result of the one before it. -/
theorem finish_runLevel_of_width_eq_one (hwidth : window.width = 1) :
    ∀ (loads : List Load) (taken : Taken), (∀ load ∈ loads, load.Paced delay) →
      (runLevel window taken loads).finish =
        taken.latest + spent delay (runLevel window taken loads).log
  | [], taken => fun _ => rfl
  | load :: rest, taken => by
      intro hpaced
      obtain ⟨hload, hothers⟩ := List.forall_mem_cons.1 hpaced
      have hfirst : (runNext window taken load).finish =
          taken.latest + spent delay (runNext window taken load).log := by
        rw [runNext, taken.startOf_of_width_eq_one hwidth]
        exact finish_run_of_width_eq_one hwidth taken.latest load hload
      have hlatest : (takeNext window taken load).latest = (runNext window taken load).finish := by
        rw [takeNext_latest]
        exact Nat.max_eq_right (latest_le_finish_runNext hwidth taken load)
      cases hfailure : (runNext window taken load).failure with
      | none =>
          have hrest := finish_runLevel_of_width_eq_one hwidth rest (takeNext window taken load)
            hothers
          rw [finish_cons_of_none hfailure, log_cons_of_none hfailure, spent_append]
          omega
      | some e =>
          rw [finish_cons_of_some hfailure, log_cons_of_some hfailure,
            droppedBeside_of_width_eq_one hwidth, List.append_nil]
          omega

end

/-! ### All at once -/

/-- A call and further calls, each for what the one before it brought. -/
inductive Chain : Load → List Call → Prop where
  | last (load : Load) : Chain load [load.call]
  | step {load other : Load} {calls : List Call} (hnext : other ∈ load.next)
      (hrest : Chain other calls) : Chain load (load.call :: calls)

/-- The delays of the calls of a chain. -/
def along (delay : String → Nat) (calls : List Call) : Nat :=
  (calls.map fun call => delay call.table).sum

theorem along_cons (call : Call) (calls : List Call) :
    along delay (call :: calls) = delay call.table + along delay calls := by
  simp [along]

/-- In a level without failure every load is run, and done before the level is. -/
theorem exists_run_of_mem {loads : List Load} {other : Load} (hother : other ∈ loads)
    {taken : Taken} (hordered : taken.Ordered)
    (hnone : (runLevel window taken loads).failure = none) :
    ∃ start, taken.opened ≤ start ∧ (run window start other).failure = none ∧
      (run window start other).finish ≤ (runLevel window taken loads).finish := by
  induction loads generalizing taken with
  | nil => cases hother
  | cons load rest ih =>
      rw [failure_cons, Option.or_eq_none_iff] at hnone
      obtain ⟨hfirst, hnone⟩ := hnone
      rcases List.mem_cons.1 hother with rfl | hother
      · exact ⟨_, hordered.opened_le_startOf window 0, hfirst,
          finish_runNext_le_finish window taken other rest⟩
      · rw [finish_cons_of_none hfirst]
        exact ih hother (hordered.push _) hnone

theorem Chain.le_finish {load : Load} {calls : List Call} (h : load.Chain calls)
    (hpaced : load.Paced delay) {start : Nat} (hnone : (run window start load).failure = none) :
    start + along delay calls ≤ (run window start load).finish := by
  induction h generalizing start with
  | last load =>
      have hle := start_add_duration_le_finish window start load
      rw [hpaced.duration_eq] at hle
      simpa [along] using hle
  | @step load other calls hnext hrest ih =>
      have hother := hpaced.next other hnext
      have hduration := hpaced.duration_eq
      obtain ⟨call, duration, failure, next⟩ := load
      rw [run_failure_mk, Option.or_eq_none_iff] at hnone
      obtain ⟨rfl, hbelow⟩ := hnone
      obtain ⟨begun, hbegun, hfailure, hdone⟩ :=
        exists_run_of_mem hnext (Taken.ordered_start (start + duration)) hbelow
      have hchain := ih hother hfailure
      rw [along_cons, ← hduration]
      calc start + (duration + along delay calls)
          = start + duration + along delay calls := (Nat.add_assoc _ _ _).symm
        _ ≤ begun + along delay calls := Nat.add_le_add_right hbegun _
        _ ≤ (run window begun other).finish := hchain
        _ ≤ (runLevel window (.start (start + duration)) next).finish := hdone

/-- Whether no level of a load holds more loads than a number. -/
inductive Fits (width : Nat) : Load → Prop where
  | mk {load : Load} (hlength : load.next.length ≤ width)
      (hnext : ∀ other ∈ load.next, other.Fits width) : Fits width load

theorem startOf_of_length_lt {taken : Taken} (h : taken.times.length < window.width) :
    taken.startOf window 0 = taken.opened := by
  have hbeyond : taken.times.length ≤ window.width - 1 - 0 := by omega
  rw [Taken.startOf, if_pos window.pos, List.getD_eq_getElem?_getD,
    List.getElem?_eq_none hbeyond]
  rfl

mutual

theorem exists_chain_finish (start : Nat) : ∀ load : Load, load.Paced delay →
    load.Fits window.width → (run window start load).failure = none →
      ∃ calls, load.Chain calls ∧ (run window start load).finish = start + along delay calls
  | .mk call duration (some e) next => by
      intro _ _ hnone
      rw [run_failure_mk] at hnone
      cases hnone
  | .mk call duration none next => by
      intro hpaced hfits hnone
      cases hpaced with
      | mk hnext =>
          cases hfits with
          | mk hlength hbelow =>
              have hlevel := exists_chain_finishLevel next (.start (start + delay call.table))
                hnext hbelow hlength hnone
              rcases hlevel with hnothing | ⟨other, hother, calls, hchain, hfinish⟩
              · refine ⟨[call], .last _, ?_⟩
                rw [along_cons]
                exact hnothing
              · refine ⟨call :: calls, .step hother hchain, ?_⟩
                rw [along_cons, ← Nat.add_assoc]
                exact hfinish

/-- A level with room for all its loads is done with the latest of them, each from its opening. -/
theorem exists_chain_finishLevel : ∀ (loads : List Load) (taken : Taken),
    (∀ load ∈ loads, load.Paced delay) → (∀ load ∈ loads, load.Fits window.width) →
      loads.length + taken.times.length ≤ window.width →
        (runLevel window taken loads).failure = none →
          (runLevel window taken loads).finish = taken.latest ∨
          ∃ other ∈ loads, ∃ calls, other.Chain calls ∧
            (runLevel window taken loads).finish = taken.opened + along delay calls
  | [], taken => fun _ _ _ _ => Or.inl rfl
  | load :: rest, taken => by
      intro hpaced hfits hroom hnone
      obtain ⟨hload, hothers⟩ := List.forall_mem_cons.1 hpaced
      obtain ⟨hfitsLoad, hfitsRest⟩ := List.forall_mem_cons.1 hfits
      rw [List.length_cons] at hroom
      -- There is room left, so the next load does not wait for a result.
      have hstart : taken.startOf window 0 = taken.opened := startOf_of_length_lt (by omega)
      rw [failure_cons, Option.or_eq_none_iff] at hnone
      obtain ⟨hfirst, hnone⟩ := hnone
      obtain ⟨calls, hchain, hfinish⟩ :=
        exists_chain_finish (taken.startOf window 0) load hload hfitsLoad hfirst
      have hpushed : rest.length + (takeNext window taken load).times.length ≤ window.width := by
        have hlength : (takeNext window taken load).times.length = taken.times.length + 1 := rfl
        omega
      rw [finish_cons_of_none hfirst]
      rcases exists_chain_finishLevel rest (takeNext window taken load) hothers hfitsRest hpushed
        hnone with hlatest | ⟨other, hother, later, hlater, hdone⟩
      · rw [hlatest, takeNext_latest]
        rcases Nat.le_total (runNext window taken load).finish taken.latest with hle | hle
        · exact Or.inl (Nat.max_eq_left hle)
        · refine Or.inr ⟨load, List.mem_cons_self, calls, hchain, ?_⟩
          rw [Nat.max_eq_right hle, ← hstart]
          exact hfinish
      · exact Or.inr ⟨other, List.mem_cons_of_mem _ hother, later, hlater, hdone⟩

end

/-- A run without failure takes the largest sum of delays along a chain, if every level has room. -/
theorem isGreatest_chain {load : Load} (hpaced : load.Paced delay)
    (hfits : load.Fits window.width) (hnone : (run window 0 load).failure = none) :
    IsGreatest {total | ∃ calls, load.Chain calls ∧ total = along delay calls}
      (run window 0 load).finish := by
  constructor
  · obtain ⟨calls, hchain, hfinish⟩ := exists_chain_finish 0 load hpaced hfits hnone
    exact ⟨calls, hchain, hfinish.trans (Nat.zero_add _)⟩
  · rintro total ⟨calls, hchain, rfl⟩
    have hle := hchain.le_finish hpaced hnone
    rwa [Nat.zero_add] at hle

end Load

/-! ### Graphs of relations -/

/-- Whether no level of a source has more relations than a number. -/
inductive Source.Fits (width : Nat) : Source → Prop where
  | mk {entity : Entity} {relations : List (Relation × Source)}
      (hlength : relations.length ≤ width) (hnext : ∀ other ∈ relations, other.2.Fits width) :
      Fits width (.mk entity relations)

section Plan

variable {backend : Backend} {delay : String → Nat} {width : Nat} {directives : Directives}
  {parents : List Record}

theorem fits_of_next_eq_nil {load : Load} (h : load.next = []) : load.Fits width :=
  .mk (by simp [h]) (by simp [h])

theorem fits_plan {source : Source} (h : source.Fits width) :
    (Fetch.loads delay (source.plan backend directives parents)).length ≤ width ∧
      ∀ load ∈ Fetch.loads delay (source.plan backend directives parents), load.Fits width := by
  induction h generalizing directives parents with
  | mk hlength hnext ih =>
      rw [Source.plan]
      split
      · simp [Fetch.loads]
      · refine ⟨(length_loads_planRelations_le delay _).trans hlength, fun load hload => ?_⟩
        rcases next_of_mem_loads_planRelations hload with
          hnil | ⟨other, hother, reduced, children, hplan⟩
        · exact fits_of_next_eq_nil hnil
        · have hbelow : (Fetch.loads delay (other.2.plan backend reduced children)).length ≤ width ∧
              ∀ below ∈ Fetch.loads delay (other.2.plan backend reduced children),
                below.Fits width := ih other hother
          rw [← hplan] at hbelow
          exact .mk hbelow.1 hbelow.2

end Plan

end RecordSearch
