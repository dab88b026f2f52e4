import RecordSearch.Proofs.Fetch.Nesting

/-!
# How runs end

A run is over when the first failure in the order of calls is taken, or when there is none. The
calls up to it have all been made and have ended, and the run is done with the latest of them; what
was in flight beside it is dropped.
-/

namespace RecordSearch

namespace Load

/-- Whether a call of a log was made before an instant or, at the instant, when a call of the log
had ended then. -/
def MadeBy (instant : Nat) (log : List Entry) (entry : Entry) : Prop :=
  entry.start < instant ∨
    entry.start = instant ∧ ∃ last ∈ log, last.start < instant ∧ last.stop = some instant

theorem MadeBy.mono {instant later : Nat} {log whole : List Entry} {entry : Entry}
    (h : MadeBy instant log entry) (hle : instant ≤ later) (hlog : log ⊆ whole) :
    MadeBy later whole entry := by
  rcases hle.lt_or_eq with hlt | rfl
  · left
    rcases h with hbefore | ⟨hsame, -⟩
    · exact hbefore.trans hlt
    · exact hsame.trans_lt hlt
  · exact h.imp_right fun ⟨hsame, last, hlast, hended⟩ => ⟨hsame, last, hlog hlast, hended⟩

theorem madeBy_cutLog {instant since : Nat} (hsince : since ≤ instant) {log : List Entry}
    {entry : Entry} (h : entry ∈ cutLog instant since log) :
    MadeBy instant (cutLog instant since log) entry := by
  unfold cutLog at h ⊢
  split at h
  · rename_i hwoken
    obtain ⟨last, hlast, hstop, hstart⟩ := any_endingAt_lt.1 hwoken
    obtain ⟨whole, -, hreached, rfl⟩ := mem_cutBy.1 h
    have hbefore : last.start < instant := hstart.trans_le hsince
    have hleft : { last with stop := last.stop.filter (· ≤ instant) } ∈ cutBy (· ≤ instant) log :=
      mem_cutBy.2 ⟨last, hlast, decide_eq_true hbefore.le, rfl⟩
    rw [if_pos hwoken]
    refine (of_decide_eq_true hreached).lt_or_eq.imp_right fun hsame => ⟨hsame, _, hleft, ?_⟩
    exact ⟨hbefore, Option.filter_eq_some_iff.2 ⟨hstop, decide_eq_true le_rfl⟩⟩
  · obtain ⟨whole, -, hreached, rfl⟩ := mem_cutBy.1 h
    exact Or.inl (of_decide_eq_true hreached)

/-- How a run with a sequence of attempts ends: the calls that have ended, and those that were
dropped. -/
structure Ending (window : Window) (run : Run) (attempts : List Attempt)
    (ended dropped : List Entry) : Prop where
  log : run.log = ended ++ dropped
  calls : ended.map (·.call) = (takeThrough Attempt.fails attempts).map (·.call)
  stop_le : ∀ entry ∈ ended, ∃ stop, entry.stop = some stop ∧ stop ≤ run.finish
  made : ∀ entry ∈ dropped, MadeBy run.finish dropped entry
  dropped_eq_nil : run.failure = none ∨ window.width = 1 → dropped = []
  last : window.width = 1 → ∀ hne : ended ≠ [], (ended.getLast hne).stop = some run.finish

theorem takeThrough_fails_of_none {attempts : List Attempt} (h : firstFailure attempts = none) :
    takeThrough Attempt.fails attempts = attempts := by
  simpa [takeThrough] using takeThrough_append_of_forall (firstFailure_eq_none_iff.1 h) []

section Level

variable {window : Window} {taken : Taken} {load : Load} {rest : List Load}
  {ended dropped : List Entry}

theorem madeBy_droppedBeside {entry : Entry} (h : entry ∈ droppedBeside window taken load rest) :
    MadeBy (takeNext window taken load).latest (droppedBeside window taken load rest) entry := by
  obtain ⟨log, hlog, hentry⟩ := List.mem_flatten.1 h
  obtain ⟨whole, -, rfl⟩ := List.mem_map.1 hlog
  have hmade := madeBy_cutLog (takeNext window taken load).since_le_latest hentry
  exact hmade.mono le_rfl ((List.sublist_flatten_of_mem hlog).subset)

/-- The first failure of a level ends it, and drops what is in flight beside it. -/
theorem Ending.cons_of_some {e : StoreError}
    (hfailure : (runNext window taken load).failure = some e)
    (h : Ending window (runNext window taken load) load.script ended dropped) :
    Ending window (runLevel window taken (load :: rest)) (scripts (load :: rest)) ended
      (dropped ++ droppedBeside window taken load rest) := by
  have hle := finish_runNext_le_finish window taken load rest
  have hfirst : ∃ attempt ∈ load.script, attempt.fails = true :=
    exists_fails_of_firstFailure_eq_some (runNext_failure.symm.trans hfailure)
  constructor
  · rw [log_cons_of_some hfailure, h.log, List.append_assoc]
  · rw [h.calls, scripts, takeThrough_append_of_exists hfirst]
  · intro entry hentry
    obtain ⟨stop, hstop, hstopLe⟩ := h.stop_le entry hentry
    exact ⟨stop, hstop, hstopLe.trans hle⟩
  · intro entry hentry
    rcases List.mem_append.1 hentry with hbelow | hbeside
    · exact (h.made entry hbelow).mono hle (List.subset_append_left _ _)
    · rw [finish_cons_of_some hfailure]
      exact (madeBy_droppedBeside hbeside).mono le_rfl (List.subset_append_right _ _)
  · intro hor
    rw [failure_cons, hfailure] at hor
    have hwidth : window.width = 1 := hor.resolve_left (by simp)
    rw [h.dropped_eq_nil (Or.inr hwidth), droppedBeside_of_width_eq_one hwidth]
    rfl
  · intro hwidth hne
    rw [h.last hwidth hne, finish_cons_of_some hfailure, takeNext_latest,
      Nat.max_eq_right (latest_le_finish_runNext hwidth taken load)]

/-- A load without failure is followed by the loads that are left. -/
theorem Ending.cons_of_none {ended' dropped' : List Entry}
    (hfailure : (runNext window taken load).failure = none)
    (h : Ending window (runNext window taken load) load.script ended dropped)
    (hrest : Ending window (runLevel window (takeNext window taken load) rest) (scripts rest)
      ended' dropped')
    (hempty : ended' = [] → (runLevel window (takeNext window taken load) rest).finish =
      (takeNext window taken load).latest) :
    Ending window (runLevel window taken (load :: rest)) (scripts (load :: rest))
      (ended ++ ended') dropped' := by
  have hle := finish_runNext_le_finish window taken load rest
  have hfirst : firstFailure load.script = none := runNext_failure.symm.trans hfailure
  have hdropped : dropped = [] := h.dropped_eq_nil (Or.inl hfailure)
  constructor
  · rw [log_cons_of_none hfailure, h.log, hrest.log, hdropped, List.append_nil, List.append_assoc]
  · rw [List.map_append, h.calls, hrest.calls, scripts, takeThrough_fails_of_none hfirst,
      takeThrough_append_of_forall (firstFailure_eq_none_iff.1 hfirst), List.map_append]
  · intro entry hentry
    rcases List.mem_append.1 hentry with hentry | hentry
    · obtain ⟨stop, hstop, hstopLe⟩ := h.stop_le entry hentry
      exact ⟨stop, hstop, hstopLe.trans hle⟩
    · rw [finish_cons_of_none hfailure]
      exact hrest.stop_le entry hentry
  · rw [finish_cons_of_none hfailure]
    exact hrest.made
  · rw [failure_cons, hfailure, Option.none_or]
    exact hrest.dropped_eq_nil
  · intro hwidth hne
    rw [finish_cons_of_none hfailure]
    by_cases hnil : ended' = []
    · subst hnil
      simp only [List.append_nil] at hne ⊢
      rw [h.last hwidth hne, hempty rfl, takeNext_latest,
        Nat.max_eq_right (latest_le_finish_runNext hwidth taken load)]
    · rw [List.getLast_append_of_ne_nil _ hnil]
      exact hrest.last hwidth hnil

end Level

mutual

/-- Every run ends so, with the latest of the calls that have ended. -/
theorem exists_ending (window : Window) (start : Nat) :
    ∀ load : Load, ∃ ended dropped,
      Ending window (run window start load) load.script ended dropped ∧
        ∃ entry ∈ ended, entry.stop = some (run window start load).finish
  | .mk call duration (some e) next => by
      refine ⟨[⟨call, start, some (start + duration)⟩], [], ?_, _, List.mem_singleton_self _, rfl⟩
      constructor <;> simp [run, script, takeThrough, Attempt.fails]
  | .mk call duration none next => by
      obtain ⟨ended, dropped, h, hlatest⟩ :=
        exists_endingLevel window (.start (start + duration)) next
      have hle : start + duration ≤ (runLevel window (.start (start + duration)) next).finish :=
        latest_le_finish window (.start (start + duration)) next
      refine ⟨⟨call, start, some (start + duration)⟩ :: ended, dropped, ?_, ?_⟩
      · constructor
        · rw [run, h.log]
          rfl
        · simp [script, takeThrough, Attempt.fails, h.calls]
        · intro entry hentry
          rcases List.mem_cons.1 hentry with rfl | hentry
          · exact ⟨_, rfl, hle⟩
          · exact h.stop_le entry hentry
        · exact h.made
        · exact h.dropped_eq_nil
        · intro hwidth hne
          by_cases hnil : ended = []
          · subst hnil
            have hfinish := hlatest.resolve_right (by simp)
            exact congrArg some hfinish.symm
          · rw [List.getLast_cons hnil]
            exact h.last hwidth hnil
      · rcases hlatest with hfinish | ⟨entry, hentry, hstop⟩
        · exact ⟨_, List.mem_cons_self, congrArg some hfinish.symm⟩
        · exact ⟨entry, List.mem_cons_of_mem _ hentry, hstop⟩

theorem exists_endingLevel (window : Window) (taken : Taken) :
    ∀ loads : List Load, ∃ ended dropped,
      Ending window (runLevel window taken loads) (scripts loads) ended dropped ∧
      ((runLevel window taken loads).finish = taken.latest ∨
        ∃ entry ∈ ended, entry.stop = some (runLevel window taken loads).finish)
  | [] => by
      refine ⟨[], [], ?_, Or.inl rfl⟩
      constructor <;> simp [runLevel, scripts, takeThrough]
  | load :: rest => by
      obtain ⟨ended, dropped, h, entry, hentry, hstop⟩ :=
        exists_ending window (taken.startOf window 0) load
      -- The next result is taken at its own end, or when the one before it is.
      have hmax : (takeNext window taken load).latest = taken.latest ∨
          entry.stop = some (takeNext window taken load).latest := by
        rw [takeNext_latest]
        rcases Nat.le_total (runNext window taken load).finish taken.latest with hle | hle
        · exact Or.inl (Nat.max_eq_left hle)
        · exact Or.inr (by rw [Nat.max_eq_right hle, hstop, runNext])
      cases hfailure : (runNext window taken load).failure with
      | some e =>
          refine ⟨ended, _, Ending.cons_of_some hfailure h, ?_⟩
          rw [finish_cons_of_some hfailure]
          exact hmax.imp_right fun hstop => ⟨entry, hentry, hstop⟩
      | none =>
          obtain ⟨ended', dropped', hrest, hlatest⟩ :=
            exists_endingLevel window (takeNext window taken load) rest
          refine ⟨ended ++ ended', dropped',
            Ending.cons_of_none hfailure h hrest fun hnil => ?_, ?_⟩
          · exact hlatest.resolve_right (by simp [hnil])
          · rw [finish_cons_of_none hfailure]
            rcases hlatest with hfinish | ⟨entry', hentry', hstop'⟩
            · rw [hfinish]
              exact hmax.imp_right fun hstop => ⟨entry, List.mem_append_left _ hentry, hstop⟩
            · exact Or.inr ⟨entry', List.mem_append_right _ hentry', hstop'⟩

end

-- Of the two calls that end at 20 the one for y was made first, and leads on before the failure of
-- the other one is seen.
example :
    let call (table : String) : Call := ⟨table, .select [] true⟩
    let failing : Load := .mk (call "x") 10 none [.mk (call "bad") 10 (some (.timeout ⟨7⟩)) []]
    let beside : Load := .mk (call "y") 20 none [.mk (call "z") 5 none []]
    (runLevel .standard (.start 0) [failing, beside]).log =
      [⟨call "x", 0, some 10⟩, ⟨call "bad", 10, some 20⟩, ⟨call "y", 0, some 20⟩,
        ⟨call "z", 20, none⟩] := by
  decide +kernel

end Load

/-- How a request with a script ends. -/
structure Outcome.EndsWith {α : Type} (repository : Repository) (script : List Step)
    (outcome : Outcome α) (ended dropped : List Entry) : Prop extends
    Load.Ending repository.window outcome.run (script.map Step.toAttempt) ended dropped where
  failure : failureOf outcome.result = script.findSome? (·.failure)
  latest : ∃ entry ∈ ended, entry.stop = some outcome.elapsed
  stops : ∀ entry ∈ ended,
    entry.stop = some (entry.start + repository.backend.delay entry.call.table)

namespace Repository

variable (repository : Repository)

theorem exists_endsWith {α : Type} {script : List Step} {outcome : Outcome α} {load : Load}
    (hrun : outcome.run = load.run repository.window 0)
    (hfailure : failureOf outcome.result = script.findSome? (·.failure))
    (hscript : load.script = script.map Step.toAttempt)
    (hpaced : load.Paced repository.backend.delay) :
    ∃ ended dropped, outcome.EndsWith repository script ended dropped := by
  obtain ⟨ended, dropped, hending, entry, hentry, hstop⟩ :=
    Load.exists_ending repository.window 0 load
  have htraced := Load.traced_run repository.window 0 load
  rw [← hrun] at hending hstop htraced
  rw [hscript] at hending
  refine ⟨ended, dropped, hending, hfailure, ⟨entry, hentry, hstop⟩, ?_⟩
  intro other hother
  have hlog : other ∈ outcome.log := by
    rw [show outcome.log = ended ++ dropped from hending.log]
    exact List.mem_append_left _ hother
  obtain ⟨stop, hstop, -⟩ := hending.stop_le other hother
  rw [hstop, htraced.stop_eq hpaced other hlog stop hstop]

theorem search_endsWith (predicates : List Predicate) (request : Option PageRequest)
    (options : RequestOptions) : ∃ ended dropped,
      (repository.search predicates request options).EndsWith repository
        (repository.searchScript predicates request options) ended dropped :=
  repository.exists_endsWith search_run search_failure script_searchLoad paced_searchLoad

theorem getById_endsWith (id : Value) (directives : Option Directives) : ∃ ended dropped,
    (repository.getById id directives).EndsWith repository
      (repository.getByIdScript id directives) ended dropped :=
  repository.exists_endsWith getById_run getById_failure script_getByIdLoad paced_getByIdLoad

end Repository

end RecordSearch
