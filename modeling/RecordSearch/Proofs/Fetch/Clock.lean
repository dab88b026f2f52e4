import Mathlib.Order.Nat
import RecordSearch.Proofs.Fetch.Script

/-!
# Clocks of runs

What the instants of a level have to do with each other: results are taken one after another, a load
starts between the opening of its level and the latest result taken, and no run is done before its
call is.
-/

namespace RecordSearch

namespace Taken

variable {taken : Taken}

/-- Results are taken in order, and none before the level opens. -/
def Ordered (taken : Taken) : Prop :=
  (taken.times ++ [taken.opened]).Pairwise (· ≥ ·)

theorem ordered_start (opened : Nat) : (start opened).Ordered :=
  List.pairwise_singleton _ _

theorem Ordered.le_latest (h : taken.Ordered) {time : Nat}
    (htime : time ∈ taken.times ++ [taken.opened]) : time ≤ taken.latest := by
  unfold Ordered at h
  unfold latest
  cases htimes : taken.times with
  | nil =>
      rw [htimes] at htime
      simpa using (List.mem_singleton.1 htime).le
  | cons last times =>
      rw [htimes] at h htime
      rcases List.mem_cons.1 htime with rfl | hbefore
      · exact le_rfl
      · exact List.rel_of_pairwise_cons h hbefore

theorem Ordered.push (h : taken.Ordered) (run : Run) : (taken.push run).Ordered := by
  refine List.pairwise_cons.2 ⟨fun time htime => ?_, h⟩
  exact (h.le_latest htime).trans (Nat.le_max_left _ _)

theorem getD_mem (taken : Taken) (place : Nat) :
    taken.times.getD place taken.opened ∈ taken.times ++ [taken.opened] := by
  rw [List.getD_eq_getElem?_getD]
  cases htime : taken.times[place]? with
  | none => simp
  | some time => exact List.mem_append_left _ (List.mem_of_getElem? htime)

theorem latest_mem (taken : Taken) : taken.latest ∈ taken.times ++ [taken.opened] := by
  unfold latest
  cases taken.times <;> simp

theorem startOf_mem (taken : Taken) (window : Window) (ahead : Nat) :
    taken.startOf window ahead ∈ taken.times ++ [taken.opened] := by
  unfold startOf
  split
  · exact taken.getD_mem _
  · exact taken.latest_mem

theorem Ordered.opened_le (h : taken.Ordered) {time : Nat}
    (htime : time ∈ taken.times ++ [taken.opened]) : taken.opened ≤ time := by
  rcases List.mem_append.1 htime with hbefore | hopened
  · exact (List.pairwise_append.1 h).2.2 time hbefore taken.opened (List.mem_singleton_self _)
  · exact (List.mem_singleton.1 hopened).ge

theorem Ordered.opened_le_startOf (h : taken.Ordered) (window : Window) (ahead : Nat) :
    taken.opened ≤ taken.startOf window ahead :=
  h.opened_le (taken.startOf_mem window ahead)

theorem startOf_of_width_eq_one (taken : Taken) {window : Window} (hwidth : window.width = 1) :
    taken.startOf window 0 = taken.latest := by
  unfold startOf latest
  rw [if_pos window.pos, hwidth]
  cases taken.times <;> rfl

end Taken

namespace Load

def call : Load → Call
  | .mk call _ _ _ => call

def duration : Load → Nat
  | .mk _ duration _ _ => duration

def next : Load → List Load
  | .mk _ _ _ next => next

/-! ### Steps of a level -/

/-- The run of the next load of a level. -/
def runNext (window : Window) (taken : Taken) (load : Load) : Run :=
  run window (taken.startOf window 0) load

/-- The results of a level with that of the next load. -/
def takeNext (window : Window) (taken : Taken) (load : Load) : Taken :=
  taken.push (runNext window taken load)

/-- What is left of the loads in flight beside the next one when its failure is taken. -/
def droppedBeside (window : Window) (taken : Taken) (load : Load) (rest : List Load) :
    List Entry :=
  ((inFlight window taken 1 rest).map (cutLog (takeNext window taken load).latest
    (takeNext window taken load).since)).flatten

section Step

variable {window : Window} {taken : Taken} {load : Load} {rest : List Load}

theorem runNext_failure : (runNext window taken load).failure = firstFailure load.script :=
  run_failure _ _ _

theorem takeNext_latest :
    (takeNext window taken load).latest = max taken.latest (runNext window taken load).finish := rfl

theorem finish_cons_of_none (h : (runNext window taken load).failure = none) :
    (runLevel window taken (load :: rest)).finish =
      (runLevel window (takeNext window taken load) rest).finish := by
  rw [runNext] at h
  rw [runLevel, h]
  rfl

theorem log_cons_of_none (h : (runNext window taken load).failure = none) :
    (runLevel window taken (load :: rest)).log =
      (runNext window taken load).log ++
        (runLevel window (takeNext window taken load) rest).log := by
  rw [runNext] at h
  rw [runLevel, h]
  rfl

theorem finish_cons_of_some {e : StoreError} (h : (runNext window taken load).failure = some e) :
    (runLevel window taken (load :: rest)).finish = (takeNext window taken load).latest := by
  rw [runNext] at h
  rw [runLevel, h]
  rfl

theorem log_cons_of_some {e : StoreError} (h : (runNext window taken load).failure = some e) :
    (runLevel window taken (load :: rest)).log =
      (runNext window taken load).log ++ droppedBeside window taken load rest := by
  rw [runNext] at h
  rw [runLevel, h]
  rfl

theorem failure_cons : (runLevel window taken (load :: rest)).failure =
    (runNext window taken load).failure.or
      (runLevel window (takeNext window taken load) rest).failure :=
  runLevel_failure_cons _ _ _ _

theorem inFlight_of_le {ahead : Nat} (h : window.width ≤ ahead) (loads : List Load) :
    inFlight window taken ahead loads = [] := by
  cases loads with
  | nil => rfl
  | cons load rest => rw [inFlight, if_neg (Nat.not_lt.2 h)]

theorem droppedBeside_of_width_eq_one (hwidth : window.width = 1) :
    droppedBeside window taken load rest = [] := by
  rw [droppedBeside, inFlight_of_le (Nat.le_of_eq hwidth)]
  rfl

theorem latest_le_finish (window : Window) (taken : Taken) (loads : List Load) :
    taken.latest ≤ (runLevel window taken loads).finish := by
  induction loads generalizing taken with
  | nil => exact le_rfl
  | cons load rest ih =>
      have hnext : taken.latest ≤ (takeNext window taken load).latest := Nat.le_max_left _ _
      cases hfailure : (runNext window taken load).failure with
      | none =>
          rw [finish_cons_of_none hfailure]
          exact hnext.trans (ih _)
      | some e =>
          rw [finish_cons_of_some hfailure]
          exact hnext

theorem finish_runNext_le_finish (window : Window) (taken : Taken) (load : Load)
    (rest : List Load) :
    (runNext window taken load).finish ≤ (runLevel window taken (load :: rest)).finish := by
  have hnext : (runNext window taken load).finish ≤ (takeNext window taken load).latest :=
    Nat.le_max_right _ _
  cases hfailure : (runNext window taken load).failure with
  | none =>
      rw [finish_cons_of_none hfailure]
      exact hnext.trans (latest_le_finish _ _ _)
  | some e =>
      rw [finish_cons_of_some hfailure]
      exact hnext

theorem start_add_duration_le_finish (window : Window) (start : Nat) (load : Load) :
    start + load.duration ≤ (run window start load).finish := by
  obtain ⟨call, duration, failure, next⟩ := load
  cases failure with
  | none => exact latest_le_finish window (.start (start + duration)) next
  | some e => exact le_rfl

/-- With a window for one load at a time each load follows the one before it. -/
theorem latest_le_finish_runNext (hwidth : window.width = 1) (taken : Taken) (load : Load) :
    taken.latest ≤ (runNext window taken load).finish := by
  rw [runNext, taken.startOf_of_width_eq_one hwidth]
  exact (Nat.le_add_right _ _).trans (start_add_duration_le_finish _ _ load)

end Step

end Load

end RecordSearch
