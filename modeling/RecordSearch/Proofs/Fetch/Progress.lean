import Mathlib.Data.List.GetD
import RecordSearch.Proofs.Fetch.Nesting

/-!
# Progress of runs

How far a load has come at an instant, followed up to then and no further: a call that is still
under way tells nothing of what it would lead to. This is what a request comes to that is dropped at
the instant, and it is what a cut of the whole run leaves: nothing that a run does before an instant
depends on what would come after it.
-/

namespace RecordSearch

/-- A load or a level at an instant: done, or under way with its calls so far. -/
inductive Progress where
  | done (run : Run)
  | underWay (log : List Entry)

namespace Progress

def log : Progress → List Entry
  | .done run => run.log
  | .underWay log => log

/-- Progress with the calls that came before. -/
def after (before : List Entry) : Progress → Progress
  | .done run => .done { run with log := before ++ run.log }
  | .underWay log => .underWay (before ++ log)

end Progress

/-- What is known of a run at an instant. -/
def Run.seenAt (instant : Nat) (run : Run) : Progress :=
  if run.finish ≤ instant then .done run else .underWay (truncateLog instant run.log)

namespace Load

mutual

/-- How far a load has come that started at an instant up to `instant`. -/
def progress (window : Window) (instant start : Nat) : Load → Progress
  | .mk call duration failure next =>
    let stop := start + duration
    if instant < stop then .underWay [⟨call, start, none⟩]
    else match failure with
      | some error => .done ⟨stop, some error, [⟨call, start, some stop⟩]⟩
      | none => (progressLevel window instant (.start stop) next).after [⟨call, start, some stop⟩]

/-- How far the loads that are left on a level have come. While the next one is under way, those in
flight beside it are. -/
def progressLevel (window : Window) (instant : Nat) (taken : Taken) : List Load → Progress
  | [] => .done ⟨taken.latest, none, []⟩
  | load :: rest =>
    match progress window instant (taken.startOf window 0) load with
    | .underWay log => .underWay (log ++ (progressBeside window instant taken 1 rest).flatten)
    | .done first =>
      let taken' := taken.push first
      match first.failure with
      | some error =>
        let cancelled := progressBeside window instant taken 1 rest
        .done ⟨taken'.latest, some error,
          first.log ++ (cancelled.map (cutLog taken'.latest taken'.since)).flatten⟩
      | none => (progressLevel window instant taken' rest).after first.log

/-- The calls so far of the loads in flight, from the one `ahead` places after the next. -/
def progressBeside (window : Window) (instant : Nat) (taken : Taken) (ahead : Nat) :
    List Load → List (List Entry)
  | [] => []
  | load :: rest =>
    if ahead < window.width then
      (progress window instant (taken.startOf window ahead) load).log ::
        progressBeside window instant taken (ahead + 1) rest
    else []

end

/-! ### Cuts of logs -/

section Truncate

variable {instant since horizon : Nat}

theorem truncateLog_append (front back : List Entry) :
    truncateLog horizon (front ++ back) =
      truncateLog horizon front ++ truncateLog horizon back :=
  cutBy_append front back

theorem truncateLog_flatten (logs : List (List Entry)) :
    truncateLog horizon logs.flatten = (logs.map (truncateLog horizon)).flatten := by
  induction logs with
  | nil => rfl
  | cons log logs ih =>
      rw [List.flatten_cons, truncateLog_append, ih, List.map_cons, List.flatten_cons]

theorem truncateLog_cons_of_le {entry : Entry} {log : List Entry} (h : entry.start ≤ horizon) :
    truncateLog horizon (entry :: log) =
      { entry with stop := entry.stop.filter (· ≤ horizon) } :: truncateLog horizon log :=
  cutBy_cons_of_reached (decide_eq_true h)

theorem truncateLog_eq_self {log : List Entry} (h : ∀ entry ∈ log, entry.start ≤ horizon ∧
    ∀ stop, entry.stop = some stop → stop ≤ horizon) : truncateLog horizon log = log := by
  induction log with
  | nil => rfl
  | cons entry log ih =>
      obtain ⟨⟨hstart, hstop⟩, hlog⟩ := List.forall_mem_cons.1 h
      have hkept : entry.stop.filter (fun stop => decide (stop ≤ horizon)) = entry.stop := by
        cases hs : entry.stop with
        | none => rfl
        | some stop => simpa using hstop stop hs
      rw [truncateLog_cons_of_le hstart, hkept, ih hlog]

theorem truncateLog_run {window : Window} {start : Nat} {load : Load}
    (h : (run window start load).finish ≤ horizon) :
    truncateLog horizon (run window start load).log = (run window start load).log := by
  refine truncateLog_eq_self fun entry hentry => ?_
  obtain ⟨hstart, hstops⟩ := (traced_run window start load).le_closed entry hentry
  exact ⟨hstart.trans h, fun stop hstop => (hstops stop hstop).trans h⟩

theorem cutBy_cutBy {reached reached' both : Nat → Bool}
    (hboth : ∀ time, (reached time && reached' time) = both time) (log : List Entry) :
    cutBy reached (cutBy reached' log) = cutBy both log := by
  have hboth' (time : Nat) : (reached' time && reached time) = both time := by
    rw [Bool.and_comm]
    exact hboth time
  simp only [cutBy, List.filter_map, List.map_map, List.filter_filter, Function.comp_def,
    Option.filter_filter, hboth, hboth']

theorem truncateLog_cutLog (h : horizon < instant) (log : List Entry) :
    truncateLog horizon (cutLog instant since log) = truncateLog horizon log := by
  unfold cutLog truncateLog
  split
  all_goals
    refine cutBy_cutBy (fun time => ?_) log
    rw [← Bool.decide_and, decide_eq_decide]
    omega

/-- What has been cut later shows which calls in flight end at an instant. -/
theorem any_endingAt_truncateLog (hsince : since ≤ instant) (h : instant ≤ horizon)
    (log : List Entry) : (endingAt instant (truncateLog horizon log)).any (· < since) =
      (endingAt instant log).any (· < since) := by
  rw [Bool.eq_iff_iff, any_endingAt_lt, any_endingAt_lt]
  constructor
  · rintro ⟨entry, hentry, hstop, hstart⟩
    obtain ⟨whole, hwhole, -, rfl⟩ := mem_cutBy.1 hentry
    exact ⟨whole, hwhole, (Option.filter_eq_some_iff.1 hstop).1, hstart⟩
  · rintro ⟨entry, hentry, hstop, hstart⟩
    have hbefore : entry.start ≤ horizon := (hstart.le.trans hsince).trans h
    refine ⟨_, mem_cutBy.2 ⟨entry, hentry, decide_eq_true hbefore, rfl⟩, ?_, hstart⟩
    exact Option.filter_eq_some_iff.2 ⟨hstop, decide_eq_true h⟩

theorem cutLog_truncateLog (hsince : since ≤ instant) (h : instant ≤ horizon) (log : List Entry) :
    cutLog instant since (truncateLog horizon log) = cutLog instant since log := by
  unfold cutLog
  rw [any_endingAt_truncateLog hsince h]
  unfold truncateLog
  split
  all_goals
    refine cutBy_cutBy (fun time => ?_) log
    rw [← Bool.decide_and, decide_eq_decide]
    omega

end Truncate

end Load

/-! ### Levels beyond the instant -/

/-- The results of a level when `ahead` more of them have been taken, all after an instant. -/
structure Taken.Outruns (horizon ahead : Nat) (later taken : Taken) : Prop where
  opened_eq : later.opened = taken.opened
  times_eq : ∃ beyond, later.times = beyond ++ taken.times ∧ beyond.length = ahead ∧
    ∀ time ∈ beyond, horizon < time

namespace Taken

variable {horizon ahead : Nat} {taken later : Taken} {window : Window}

theorem outruns_push {run : Run} (h : horizon < run.finish) :
    (taken.push run).Outruns horizon 1 taken := by
  refine ⟨rfl, [max taken.latest run.finish], rfl, rfl, ?_⟩
  exact List.forall_mem_singleton.2 (h.trans_le (Nat.le_max_right _ _))

theorem Outruns.lt_latest (h : later.Outruns horizon ahead taken) (hahead : 0 < ahead) :
    horizon < later.latest := by
  obtain ⟨beyond, htimes, rfl, hbeyond⟩ := h.times_eq
  obtain ⟨last, rest, rfl⟩ := List.exists_cons_of_length_pos hahead
  rw [latest, htimes]
  exact hbeyond last List.mem_cons_self

theorem Outruns.push (h : later.Outruns horizon ahead taken) (hahead : 0 < ahead) (run : Run) :
    (later.push run).Outruns horizon (ahead + 1) taken := by
  have hlatest := h.lt_latest hahead
  obtain ⟨beyond, htimes, hlength, hbeyond⟩ := h.times_eq
  refine ⟨h.opened_eq, max later.latest run.finish :: beyond, ?_, by simp [hlength], ?_⟩
  · simp [Taken.push, htimes]
  · exact List.forall_mem_cons.2 ⟨hlatest.trans_le (Nat.le_max_left _ _), hbeyond⟩

/-- A load starts after the instant, or it was in flight then. -/
theorem Outruns.startOf (h : later.Outruns horizon ahead taken) {place : Nat}
    (hplace : place < window.width) :
    if ahead + place < window.width then
      later.startOf window place = taken.startOf window (ahead + place)
    else horizon < later.startOf window place := by
  obtain ⟨beyond, htimes, rfl, hbeyond⟩ := h.times_eq
  rw [Taken.startOf, if_pos hplace, htimes, h.opened_eq]
  split
  · rename_i hflight
    have hbefore : beyond.length ≤ window.width - 1 - place := by omega
    rw [Taken.startOf, if_pos hflight, List.getD_append_right _ _ _ _ hbefore]
    congr 1
    omega
  · have hbehind : window.width - 1 - place < beyond.length := by omega
    rw [List.getD_append _ _ _ _ hbehind, List.getD_eq_getElem _ _ hbehind]
    exact hbeyond _ (List.getElem_mem hbehind)

end Taken

namespace Load

section Outrun

variable {window : Window} {horizon ahead : Nat} {taken later : Taken}

theorem truncateLog_run_of_lt {start : Nat} (h : horizon < start) (load : Load) :
    truncateLog horizon (run window start load).log = [] := by
  refine (cutsAt_le horizon).cutBy_eq_nil (decide_eq_false (Nat.not_le.2 h)) ?_
  exact (traced_run window start load).start_le

theorem truncateLog_run_of_outruns (h : later.Outruns horizon ahead taken) {place : Nat}
    (hplace : place < window.width) (load : Load) (rest : List Load) :
    ((inFlight window taken (ahead + place) (load :: rest)).map (truncateLog horizon)).flatten =
      truncateLog horizon (run window (later.startOf window place) load).log ++
        ((inFlight window taken (ahead + place + 1) rest).map (truncateLog horizon)).flatten := by
  have hstart := h.startOf hplace
  by_cases hflight : ahead + place < window.width
  · rw [if_pos hflight] at hstart
    rw [inFlight, if_pos hflight, hstart]
    rfl
  · rw [if_neg hflight] at hstart
    rw [truncateLog_run_of_lt hstart, inFlight_of_le (Nat.not_lt.1 hflight),
      inFlight_of_le (Nat.le_succ_of_le (Nat.not_lt.1 hflight))]
    rfl

theorem truncateLog_inFlight_of_outruns (h : later.Outruns horizon ahead taken)
    (place : Nat) (loads : List Load) :
    ((inFlight window later place loads).map (truncateLog horizon)).flatten =
      ((inFlight window taken (ahead + place) loads).map (truncateLog horizon)).flatten := by
  induction loads generalizing place with
  | nil => rfl
  | cons load rest ih =>
      by_cases hplace : place < window.width
      · rw [truncateLog_run_of_outruns h hplace, inFlight, if_pos hplace, List.map_cons,
          List.flatten_cons, ih (place + 1), Nat.add_assoc]
      · have hle : window.width ≤ place := Nat.not_lt.1 hplace
        rw [inFlight_of_le hle, inFlight_of_le (hle.trans (Nat.le_add_left _ _))]

theorem truncateLog_droppedBeside {load : Load} {rest : List Load}
    (h : horizon < (takeNext window taken load).latest) :
    truncateLog horizon (droppedBeside window taken load rest) =
      ((inFlight window taken 1 rest).map (truncateLog horizon)).flatten := by
  rw [droppedBeside, truncateLog_flatten, List.map_map]
  congr 1
  exact List.map_congr_left fun log _ => truncateLog_cutLog h log

/-- Once a result is taken after the instant, no load of the level starts before it any more. -/
theorem truncateLog_runLevel (h : later.Outruns horizon ahead taken) (hahead : 0 < ahead)
    (loads : List Load) :
    truncateLog horizon (runLevel window later loads).log =
      ((inFlight window taken ahead loads).map (truncateLog horizon)).flatten := by
  induction loads generalizing later ahead with
  | nil => rfl
  | cons load rest ih =>
      have hnext : (takeNext window later load).Outruns horizon (ahead + 1) taken :=
        h.push hahead (runNext window later load)
      have hfirst := truncateLog_run_of_outruns h window.pos load rest
      rw [Nat.add_zero] at hfirst
      rw [hfirst]
      cases hfailure : (runNext window later load).failure with
      | none =>
          rw [log_cons_of_none hfailure, truncateLog_append, ih hnext (Nat.succ_pos _)]
          rfl
      | some e =>
          rw [log_cons_of_some hfailure, truncateLog_append,
            truncateLog_droppedBeside (hnext.lt_latest (Nat.succ_pos _)),
            truncateLog_inFlight_of_outruns h]
          rfl

end Outrun

/-! ### What is seen of runs -/

section Seen

variable {window : Window} {instant start : Nat} {taken : Taken} {load : Load} {rest : List Load}

theorem log_seenAt :
    ((run window start load).seenAt instant).log =
      truncateLog instant (run window start load).log := by
  unfold Run.seenAt
  split
  · rename_i hdone
    exact (truncateLog_run hdone).symm
  · rfl

theorem seenAt_after {before : List Entry} (hbefore : truncateLog instant before = before)
    (run : Run) :
    (run.seenAt instant).after before =
      Run.seenAt instant { run with log := before ++ run.log } := by
  unfold Run.seenAt
  split
  · rfl
  · rw [truncateLog_append, hbefore]
    rfl

/-- While the call of a load is under way, nothing else is known of the load. -/
theorem seenAt_of_lt {call : Call} {duration : Nat} {failure : Option StoreError}
    {next : List Load} (hstart : start ≤ instant) (h : instant < start + duration) :
    (run window start (.mk call duration failure next)).seenAt instant =
      .underWay [⟨call, start, none⟩] := by
  have hfinish := start_add_duration_le_finish window start (.mk call duration failure next)
  have htraced := traced_run window start (.mk call duration failure next)
  rw [Run.seenAt, if_neg (Nat.not_le.2 (h.trans_le hfinish))]
  generalize (run window start (.mk call duration failure next)).log = log at htraced
  cases htraced with
  | mk hclosed hbelow =>
      have hnone : truncateLog instant _ = [] :=
        (cutsAt_le instant).cutBy_eq_nil (decide_eq_false (Nat.not_le.2 h)) hbelow.opened_le
      rw [truncateLog_cons_of_le hstart, Option.filter_some, if_neg (by simpa using h), hnone]

theorem runLevel_cons_of_none (h : (runNext window taken load).failure = none) :
    runLevel window taken (load :: rest) =
      { runLevel window (takeNext window taken load) rest with
        log := (runNext window taken load).log ++
          (runLevel window (takeNext window taken load) rest).log } := by
  rw [runNext] at h
  rw [runLevel, h]
  rfl

theorem runLevel_cons_of_some {e : StoreError} (h : (runNext window taken load).failure = some e) :
    runLevel window taken (load :: rest) =
      ⟨(takeNext window taken load).latest, some e,
        (runNext window taken load).log ++ droppedBeside window taken load rest⟩ := by
  rw [runNext] at h
  rw [runLevel, h]
  rfl

/-- While the next load of a level is under way, so is the level, with what is in flight beside
it. -/
theorem seenAt_cons_of_lt (h : instant < (runNext window taken load).finish) :
    (runLevel window taken (load :: rest)).seenAt instant =
      .underWay (truncateLog instant (runNext window taken load).log ++
        ((inFlight window taken 1 rest).map (truncateLog instant)).flatten) := by
  have hfinish := finish_runNext_le_finish window taken load rest
  rw [Run.seenAt, if_neg (Nat.not_le.2 (h.trans_le hfinish))]
  cases hfailure : (runNext window taken load).failure with
  | none =>
      have hnext : (takeNext window taken load).Outruns instant 1 taken := Taken.outruns_push h
      rw [log_cons_of_none hfailure, truncateLog_append, truncateLog_runLevel hnext Nat.one_pos]
  | some e =>
      rw [log_cons_of_some hfailure, truncateLog_append,
        truncateLog_droppedBeside (h.trans_le (Nat.le_max_right _ _))]

theorem droppedBeside_eq (h : (takeNext window taken load).latest ≤ instant) :
    droppedBeside window taken load rest =
      (((inFlight window taken 1 rest).map (truncateLog instant)).map
        (cutLog (takeNext window taken load).latest
          (takeNext window taken load).since)).flatten := by
  rw [droppedBeside, List.map_map]
  congr 1
  have hsince := (takeNext window taken load).since_le_latest
  exact List.map_congr_left fun log _ => (cutLog_truncateLog hsince h log).symm

mutual

/-- A load that is followed up to an instant shows what is seen of its run then. -/
theorem progress_eq : ∀ (load : Load) {start : Nat}, start ≤ instant →
    load.progress window instant start = (run window start load).seenAt instant
  | .mk call duration failure next, start => by
      intro hstart
      rw [progress.eq_def]
      by_cases hstop : instant < start + duration
      · simp only [if_pos hstop, seenAt_of_lt hstart hstop]
      · have hended := Nat.not_lt.1 hstop
        simp only [if_neg hstop]
        cases failure with
        | some e => rw [run, Run.seenAt, if_pos hended]
        | none =>
            have hentry : truncateLog instant [⟨call, start, some (start + duration)⟩] =
                [⟨call, start, some (start + duration)⟩] :=
              truncateLog_eq_self (by simpa using ⟨hstart, hended⟩)
            have hlevel := progressLevel_eq next (Taken.ordered_start _) hended
            simp only [hlevel, seenAt_after hentry]
            rfl

theorem progressLevel_eq : ∀ (loads : List Load) {taken : Taken}, taken.Ordered →
    taken.latest ≤ instant →
      progressLevel window instant taken loads = (runLevel window taken loads).seenAt instant
  | [], taken => by
      intro _ hlatest
      rw [Run.seenAt, runLevel, if_pos hlatest, progressLevel]
  | load :: rest, taken => by
      intro hordered hlatest
      have hstart := (hordered.le_latest (taken.startOf_mem window 0)).trans hlatest
      have hbeside := progressBeside_eq rest hordered hlatest 1
      have hfirst : load.progress window instant (taken.startOf window 0) =
          (runNext window taken load).seenAt instant := progress_eq load hstart
      rw [progressLevel, hfirst]
      by_cases hdone : (runNext window taken load).finish ≤ instant
      · have hnext : (takeNext window taken load).latest ≤ instant := Nat.max_le.2 ⟨hlatest, hdone⟩
        rw [Run.seenAt, if_pos hdone]
        cases hfailure : (runNext window taken load).failure with
        | none =>
            have hbefore : truncateLog instant (runNext window taken load).log =
                (runNext window taken load).log := truncateLog_run hdone
            have hlevel := progressLevel_eq rest (hordered.push (runNext window taken load)) hnext
            simp only [hfailure, hlevel, seenAt_after hbefore, runLevel_cons_of_none hfailure]
            rfl
        | some e =>
            rw [runLevel_cons_of_some hfailure, droppedBeside_eq hnext, Run.seenAt, if_pos hnext]
            simp only [hfailure, hbeside]
            rfl
      · have hlate := Nat.lt_of_not_le hdone
        rw [seenAt_cons_of_lt hlate, Run.seenAt, if_neg hdone, hbeside]

theorem progressBeside_eq : ∀ (loads : List Load) {taken : Taken}, taken.Ordered →
    taken.latest ≤ instant → ∀ ahead, progressBeside window instant taken ahead loads =
      (inFlight window taken ahead loads).map (truncateLog instant)
  | [], taken => fun _ _ _ => rfl
  | load :: rest, taken => by
      intro hordered hlatest ahead
      have hstart := (hordered.le_latest (taken.startOf_mem window ahead)).trans hlatest
      rw [progressBeside, inFlight]
      split
      · rw [progress_eq load hstart, log_seenAt, progressBeside_eq rest hordered hlatest,
          List.map_cons]
      · rfl

end

end Seen

end Load

end RecordSearch
