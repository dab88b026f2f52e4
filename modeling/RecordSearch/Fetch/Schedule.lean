import RecordSearch.Predicate.Basic
import RecordSearch.StoreError

/-!
# Schedules of loads

A load is a call to a store that takes some time and, unless it fails, a level of further loads. A
level runs its loads in order with a bounded window: results are taken strictly in order, and a load
starts when the result as many places before it as the window is wide is taken. The first failure in
order ends the level when it is taken and cancels the loads still in flight.
-/

namespace RecordSearch

inductive Lookup where
  | select (predicates : List Predicate) (skipPaging : Bool)
  | byId (id : Value)
  deriving DecidableEq

structure Call where
  table : String
  lookup : Lookup
  deriving DecidableEq

/-- A call with the time that it takes, its failure, and the loads that follow when it succeeds. -/
inductive Load where
  | mk (call : Call) (duration : Nat) (failure : Option StoreError) (next : List Load)

/-- A call in a log. A cancelled call has no end. -/
structure Entry where
  call : Call
  start : Nat
  stop : Option Nat
  deriving DecidableEq

/-- What a load or a level did: when its result was there, its failure, and its calls. -/
structure Run where
  finish : Nat
  failure : Option StoreError
  log : List Entry

structure Window where
  width : Nat
  pos : 0 < width := by decide

namespace Window

def ofNat (n : Nat) : Window :=
  ⟨max 1 n, Nat.le_max_left 1 n⟩

def standard : Window := ⟨8, by decide⟩

end Window

/-- When the calls of a log were made that end at an instant. -/
def endingAt (instant : Nat) (log : List Entry) : List Nat :=
  (log.filter fun entry => entry.stop = some instant).map (·.start)

theorem any_endingAt_lt {instant since : Nat} {log : List Entry} :
    (endingAt instant log).any (· < since) = true ↔
      ∃ entry ∈ log, entry.stop = some instant ∧ entry.start < since := by
  simp [endingAt]

/-- When the earliest of the calls that end with a run was made. Of several timers for one instant
the one that was set first fires first. -/
def Run.wokenSince (run : Run) : Nat :=
  (endingAt run.finish run.log).foldl min run.finish

theorem foldl_min_le (instant : Nat) (starts : List Nat) : starts.foldl min instant ≤ instant := by
  induction starts generalizing instant with
  | nil => exact Nat.le_refl _
  | cons start starts ih => exact Nat.le_trans (ih _) (Nat.min_le_left _ _)

theorem Run.wokenSince_le (run : Run) : run.wokenSince ≤ run.finish :=
  foldl_min_le _ _

/-- What is left of a log of the instants that are reached: the calls made at them, with those of
their ends that came at them. -/
def cutBy (reached : Nat → Bool) (log : List Entry) : List Entry :=
  (log.filter fun entry => reached entry.start).map fun entry =>
    { entry with stop := entry.stop.filter reached }

/-- What remains of the log of a load that is cancelled at an instant, for a failure that waited for
a call made at `since`. Timers wake loads in the order in which they were set: a load with a call
that was made before `since` and ends at the instant is woken before the failure is seen, and does
all that is due then. Any other load does nothing at the instant any more. -/
def cutLog (instant since : Nat) (log : List Entry) : List Entry :=
  if (endingAt instant log).any (· < since) then cutBy (· ≤ instant) log
  else cutBy (· < instant) log

/-- The results taken on a level so far, the latest first, each with the instant at which it was
taken. -/
structure Taken where
  opened : Nat
  times : List Nat
  /-- When the call was made that the latest result waited for. -/
  since : Nat
  since_le : since ≤ times.headD opened

namespace Taken

def start (opened : Nat) : Taken := ⟨opened, [], opened, Nat.le_refl _⟩

def latest (taken : Taken) : Nat :=
  taken.times.headD taken.opened

theorem since_le_latest (taken : Taken) : taken.since ≤ taken.latest :=
  taken.since_le

/-- When the load `ahead` places after the next one starts. -/
def startOf (taken : Taken) (window : Window) (ahead : Nat) : Nat :=
  if ahead < window.width then taken.times.getD (window.width - 1 - ahead) taken.opened
  else taken.latest

/-- Takes the result of the next load, at once or when the results before it are taken. -/
def push (taken : Taken) (run : Run) : Taken :=
  { opened := taken.opened
    times := max taken.latest run.finish :: taken.times
    since :=
      if taken.latest < run.finish then run.wokenSince
      else if run.finish < taken.latest then taken.since
      else max taken.since run.wokenSince
    since_le := by
      have hwoken := run.wokenSince_le
      have hsince := taken.since_le_latest
      rw [List.headD_cons]
      split
      · exact Nat.le_trans hwoken (Nat.le_max_right _ _)
      · split
        · exact Nat.le_trans hsince (Nat.le_max_left _ _)
        · omega }

end Taken

namespace Load

mutual

def run (window : Window) (start : Nat) : Load → Run
  | .mk call duration failure next =>
    let stop := start + duration
    let entry : Entry := ⟨call, start, some stop⟩
    match failure with
    | some error => ⟨stop, some error, [entry]⟩
    | none =>
      let level := runLevel window (.start stop) next
      { level with log := entry :: level.log }

/-- Runs the loads that are left on a level. -/
def runLevel (window : Window) (taken : Taken) : List Load → Run
  | [] => ⟨taken.latest, none, []⟩
  | load :: rest =>
    let first := run window (taken.startOf window 0) load
    let taken' := taken.push first
    match first.failure with
    | some error =>
      let cancelled := inFlight window taken 1 rest
      ⟨taken'.latest, some error,
        first.log ++ (cancelled.map (cutLog taken'.latest taken'.since)).flatten⟩
    | none =>
      let others := runLevel window taken' rest
      { others with log := first.log ++ others.log }

/-- The logs, as far as nothing cancels them, of the loads that are in flight beside the next one,
from the one `ahead` places after it. -/
def inFlight (window : Window) (taken : Taken) (ahead : Nat) : List Load → List (List Entry)
  | [] => []
  | load :: rest =>
    if ahead < window.width then
      (run window (taken.startOf window ahead) load).log :: inFlight window taken (ahead + 1) rest
    else []

end

end Load

end RecordSearch
