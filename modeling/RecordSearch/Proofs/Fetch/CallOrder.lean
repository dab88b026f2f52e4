import Mathlib.Data.List.Basic
import RecordSearch.Fetch.Schedule

/-!
# The order of calls

The calls of a load form one sequence: the call itself, then those of its level, each load before
the loads beside it. Timing decides when the calls are made, but not what comes of them. A run fails
with the first failure of the sequence, a run without failure has made every call of it, and a run
whose calls take no time has made the calls up to the first failure, in order.
-/

namespace RecordSearch

/-- The elements of a list up to the first with a property, this one included. -/
def takeThrough {α : Type} (p : α → Bool) : List α → List α
  | [] => []
  | x :: xs => if p x then [x] else x :: takeThrough p xs

section TakeThrough

variable {α β : Type} {p : α → Bool}

theorem takeThrough_append_of_forall {front : List α} (hfront : ∀ x ∈ front, p x = false)
    (back : List α) : takeThrough p (front ++ back) = front ++ takeThrough p back := by
  induction front with
  | nil => rfl
  | cons x front ih =>
      have hx : p x = false := hfront x (by simp)
      have hrest := ih fun y hy => hfront y (by simp [hy])
      simp [takeThrough, hx, hrest]

theorem takeThrough_append_of_exists {front : List α} (hfront : ∃ x ∈ front, p x = true)
    (back : List α) : takeThrough p (front ++ back) = takeThrough p front := by
  induction front with
  | nil => simp at hfront
  | cons x front ih =>
      by_cases hx : p x = true
      · simp [takeThrough, hx]
      · have hrest : ∃ y ∈ front, p y = true := by
          obtain ⟨y, hy, hpy⟩ := hfront
          rcases List.mem_cons.1 hy with rfl | hy
          · exact absurd hpy hx
          · exact ⟨y, hy, hpy⟩
        simp [takeThrough, hx, ih hrest]

theorem takeThrough_map (f : β → α) (xs : List β) :
    takeThrough p (xs.map f) = (takeThrough (fun x => p (f x)) xs).map f := by
  induction xs with
  | nil => rfl
  | cons x xs ih => by_cases hx : p (f x) = true <;> simp [takeThrough, hx, ih]

theorem takeThrough_sublist (xs : List α) : (takeThrough p xs).Sublist xs := by
  induction xs with
  | nil => exact List.Sublist.refl _
  | cons x xs ih =>
      by_cases hx : p x = true
      · simp [takeThrough, hx]
      · simpa [takeThrough, hx] using ih

end TakeThrough

structure Attempt where
  call : Call
  failure : Option StoreError

def Attempt.fails (attempt : Attempt) : Bool :=
  attempt.failure.isSome

def firstFailure (attempts : List Attempt) : Option StoreError :=
  attempts.findSome? (·.failure)

theorem firstFailure_cons (attempt : Attempt) (attempts : List Attempt) :
    firstFailure (attempt :: attempts) = attempt.failure.or (firstFailure attempts) := by
  cases hfailure : attempt.failure <;> simp [firstFailure, hfailure]

theorem firstFailure_append (front back : List Attempt) :
    firstFailure (front ++ back) = (firstFailure front).or (firstFailure back) :=
  List.findSome?_append

theorem firstFailure_eq_none_iff {attempts : List Attempt} :
    firstFailure attempts = none ↔ ∀ attempt ∈ attempts, attempt.fails = false := by
  simp [firstFailure, Attempt.fails]

theorem exists_fails_of_firstFailure_eq_some {attempts : List Attempt} {e : StoreError}
    (h : firstFailure attempts = some e) : ∃ attempt ∈ attempts, attempt.fails = true := by
  obtain ⟨attempt, hmem, hfailure⟩ := List.exists_of_findSome?_eq_some h
  exact ⟨attempt, hmem, by simp [Attempt.fails, hfailure]⟩

namespace Taken

/-- Every result so far was taken when the level started. -/
def Still (taken : Taken) : Prop :=
  ∀ time ∈ taken.times, time = taken.opened

theorem Still.latest {taken : Taken} (h : Still taken) : taken.latest = taken.opened := by
  unfold Taken.latest
  cases htimes : taken.times with
  | nil => rfl
  | cons time times => exact h time (by simp [htimes])

theorem Still.startOf {taken : Taken} (h : Still taken) (window : Window) (ahead : Nat) :
    taken.startOf window ahead = taken.opened := by
  unfold Taken.startOf
  split
  · rw [List.getD_eq_getElem?_getD]
    cases htime : taken.times[window.width - 1 - ahead]? with
    | none => rfl
    | some time => exact h time (List.mem_of_getElem? htime)
  · exact h.latest

theorem Still.push {taken : Taken} (h : Still taken) {run : Run}
    (hfinish : run.finish = taken.opened) : Still (taken.push run) := by
  intro time htime
  rcases List.mem_cons.1 htime with rfl | htime
  · rw [hfinish, h.latest, Nat.max_self]
    rfl
  · exact h time htime

end Taken

namespace Load

mutual

/-- The calls of a load in order, as if none before them failed. -/
def script : Load → List Attempt
  | .mk call _ failure next => ⟨call, failure⟩ :: scripts next

def scripts : List Load → List Attempt
  | [] => []
  | load :: rest => script load ++ scripts rest

end

/-! ### The failure of a run -/

theorem run_failure_mk (window : Window) (start : Nat) (call : Call) (duration : Nat)
    (failure : Option StoreError) (next : List Load) :
    (run window start (.mk call duration failure next)).failure =
      failure.or (runLevel window (.start (start + duration)) next).failure := by
  cases failure <;> rfl

theorem runLevel_failure_cons (window : Window) (taken : Taken) (load : Load) (rest : List Load) :
    (runLevel window taken (load :: rest)).failure =
      (run window (taken.startOf window 0) load).failure.or
        (runLevel window (taken.push (run window (taken.startOf window 0) load)) rest).failure := by
  rw [runLevel]
  cases hfirst : (run window (taken.startOf window 0) load).failure <;> simp

mutual

/-- A run fails with the first failure in the order of calls, whatever its timing. -/
theorem run_failure (window : Window) (start : Nat) :
    ∀ load, (run window start load).failure = firstFailure load.script
  | .mk call duration failure next => by
      rw [run_failure_mk, runLevel_failure, script, firstFailure_cons]

theorem runLevel_failure (window : Window) (taken : Taken) :
    ∀ loads, (runLevel window taken loads).failure = firstFailure (scripts loads)
  | [] => rfl
  | load :: rest => by
      rw [runLevel_failure_cons, run_failure, runLevel_failure, scripts, firstFailure_append]

end

/-! ### The calls of a run without failure -/

mutual

theorem run_calls (window : Window) (start : Nat) :
    ∀ load, (run window start load).failure = none →
      (run window start load).log.map (·.call) = load.script.map (·.call)
  | .mk call duration failure next => by
      intro hnone
      rw [run_failure_mk, Option.or_eq_none_iff] at hnone
      obtain ⟨rfl, hnone⟩ := hnone
      simp [run, script, runLevel_calls window _ next hnone]

theorem runLevel_calls (window : Window) (taken : Taken) :
    ∀ loads, (runLevel window taken loads).failure = none →
      (runLevel window taken loads).log.map (·.call) = (scripts loads).map (·.call)
  | [] => fun _ => rfl
  | load :: rest => by
      intro hnone
      rw [runLevel_failure_cons, Option.or_eq_none_iff] at hnone
      obtain ⟨hfirst, hrest⟩ := hnone
      have hcalls := run_calls window _ load hfirst
      have hothers := runLevel_calls window _ rest hrest
      rw [runLevel, scripts, List.map_append, ← hcalls, ← hothers]
      simp [hfirst]

end

/-! ### Runs that take no time -/

inductive Instant : Load → Prop where
  | mk {call : Call} {failure : Option StoreError} {next : List Load}
      (hnext : ∀ load ∈ next, Instant load) : Instant (.mk call 0 failure next)

def entryAt (instant : Nat) (attempt : Attempt) : Entry :=
  ⟨attempt.call, instant, some instant⟩

/-- What is left of a sequence of attempts that are all made at one instant. -/
def runAt (instant : Nat) (attempts : List Attempt) : Run :=
  ⟨instant, firstFailure attempts, (takeThrough Attempt.fails attempts).map (entryAt instant)⟩

theorem runAt_append_of_none {front : List Attempt} (h : firstFailure front = none)
    (instant : Nat) (back : List Attempt) :
    runAt instant (front ++ back) =
      { runAt instant back with log := (runAt instant front).log ++ (runAt instant back).log } := by
  have hquiet := firstFailure_eq_none_iff.1 h
  have hfront : takeThrough Attempt.fails front = front := by
    simpa [takeThrough] using takeThrough_append_of_forall hquiet []
  simp [runAt, firstFailure_append, h, takeThrough_append_of_forall hquiet, hfront]

theorem runAt_append_of_some {front : List Attempt} {e : StoreError}
    (h : firstFailure front = some e) (instant : Nat) (back : List Attempt) :
    runAt instant (front ++ back) = runAt instant front := by
  have hfails := exists_fails_of_firstFailure_eq_some h
  simp [runAt, firstFailure_append, h, takeThrough_append_of_exists hfails]

/-- Nothing is left of what was started at the instant at which it is cancelled. -/
theorem cutLog_map_entryAt {instant since : Nat} (hsince : since ≤ instant)
    (attempts : List Attempt) : cutLog instant since (attempts.map (entryAt instant)) = [] := by
  have hnone : ¬ (endingAt instant (attempts.map (entryAt instant))).any (· < since) = true := by
    rw [any_endingAt_lt]
    rintro ⟨entry, hentry, -, hstart⟩
    obtain ⟨attempt, -, rfl⟩ := List.mem_map.1 hentry
    exact Nat.not_lt.2 hsince hstart
  rw [cutLog, if_neg hnone]
  simp [cutBy, entryAt, List.filter_eq_nil_iff]

mutual

/-- A run whose calls take no time has made, at once, the calls up to the first failure. -/
theorem run_of_instant (window : Window) (start : Nat) :
    ∀ load : Load, load.Instant → run window start load = runAt start load.script
  | .mk call duration failure next => by
      rintro ⟨hnext⟩
      have hstill : (Taken.start start).Still := by simp [Taken.Still, Taken.start]
      have hlevel : runLevel window (.start start) next = runAt start (scripts next) :=
        runLevel_of_instant window hstill next hnext
      cases failure with
      | none => simp [run, hlevel, script, runAt, takeThrough, firstFailure, Attempt.fails, entryAt]
      | some e => simp [run, script, runAt, takeThrough, firstFailure, Attempt.fails, entryAt]

theorem runLevel_of_instant (window : Window) {taken : Taken} (htaken : taken.Still) :
    ∀ loads : List Load, (∀ load ∈ loads, load.Instant) →
      runLevel window taken loads = runAt taken.opened (scripts loads)
  | [] => by simp [runLevel, scripts, runAt, htaken.latest, firstFailure, takeThrough]
  | load :: rest => by
      intro hloads
      obtain ⟨hload, hrest⟩ := List.forall_mem_cons.1 hloads
      have hpush : (taken.push (runAt taken.opened load.script)).Still := htaken.push rfl
      have hlatest : (taken.push (runAt taken.opened load.script)).latest = taken.opened :=
        hpush.latest
      rw [runLevel, htaken.startOf, run_of_instant window _ load hload, scripts]
      cases hfailure : firstFailure load.script with
      | none =>
          have hothers : runLevel window (taken.push (runAt taken.opened load.script)) rest =
              runAt taken.opened (scripts rest) := runLevel_of_instant window hpush rest hrest
          rw [runAt_append_of_none hfailure, ← hothers]
          simp [runAt, hfailure]
      | some e =>
          -- The loads beside the failing one have started at this very instant and leave no call.
          have hsince : (taken.push (runAt taken.opened load.script)).since ≤ taken.opened :=
            Nat.le_trans (Taken.since_le_latest _) (Nat.le_of_eq hlatest)
          have hcut : ((inFlight window taken 1 rest).map (cutLog taken.opened
              (taken.push (runAt taken.opened load.script)).since)).flatten = [] := by
            simp only [List.flatten_eq_nil_iff, List.mem_map]
            rintro _ ⟨log, hlog, rfl⟩
            obtain ⟨attempts, rfl⟩ := inFlight_of_instant window htaken rest hrest 1 log hlog
            exact cutLog_map_entryAt hsince _
          have hsome : (runAt taken.opened load.script).failure = some e := hfailure
          rw [runAt_append_of_some hfailure, hlatest, hsome]
          simp only [hcut, List.append_nil]
          simp [runAt, hfailure]

/-- The loads in flight beside one that fails have made calls at this instant only. -/
theorem inFlight_of_instant (window : Window) {taken : Taken} (htaken : taken.Still) :
    ∀ loads : List Load, (∀ load ∈ loads, load.Instant) →
      ∀ ahead, ∀ log ∈ inFlight window taken ahead loads,
        ∃ attempts : List Attempt, log = attempts.map (entryAt taken.opened)
  | [] => by
      intro _ ahead log hlog
      simp [inFlight] at hlog
  | load :: rest => by
      intro hloads ahead log hlog
      obtain ⟨hload, hrest⟩ := List.forall_mem_cons.1 hloads
      rw [inFlight] at hlog
      split at hlog
      · rw [htaken.startOf, run_of_instant window _ load hload] at hlog
        rcases List.mem_cons.1 hlog with rfl | hlog
        · exact ⟨_, rfl⟩
        · exact inFlight_of_instant window htaken rest hrest _ log hlog
      · simp at hlog

end

end Load

end RecordSearch
