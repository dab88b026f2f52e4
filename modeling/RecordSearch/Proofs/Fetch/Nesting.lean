import RecordSearch.Proofs.Fetch.Requests

/-!
# Logs of nested loads

What the log of a load looks like, whatever its timing: the call of the load and, from its end on,
the logs of the loads of its level. A load of a level may be missing, or its call may have been
dropped when the level was over; nothing follows a dropped call. Cutting such a log at an instant,
for a failure beside it or for a deadline, leaves such a log.
-/

namespace RecordSearch

namespace Load

mutual

/-- The logs of a load that starts at an instant and is over at another. -/
inductive Traced : Load → (start closed : Nat) → List Entry → Prop where
  | mk {call : Call} {duration : Nat} {failure : Option StoreError} {next : List Load}
      {start closed : Nat} {below : List Entry}
      (hclosed : start + duration ≤ closed)
      (hbelow : TracedLevel next (start + duration) closed below) :
      Traced (.mk call duration failure next) start closed
        (⟨call, start, some (start + duration)⟩ :: below)

/-- The logs of a level that opens at an instant and is over at another. -/
inductive TracedLevel : List Load → (opened closed : Nat) → List Entry → Prop where
  | nil {opened closed : Nat} : TracedLevel [] opened closed []
  | missing {load : Load} {rest : List Load} {opened closed : Nat} {log : List Entry}
      (hrest : TracedLevel rest opened closed log) :
      TracedLevel (load :: rest) opened closed log
  | made {load : Load} {rest : List Load} {opened closed start done : Nat} {front log : List Entry}
      (hstart : opened ≤ start) (hdone : done ≤ closed)
      (hload : Traced load start done front)
      (hrest : TracedLevel rest opened closed log) :
      TracedLevel (load :: rest) opened closed (front ++ log)
  | dropped {load : Load} {rest : List Load} {opened closed start : Nat} {log : List Entry}
      (hstart : opened ≤ start) (hclosed : start ≤ closed) (hlate : closed ≤ start + load.duration)
      (hrest : TracedLevel rest opened closed log) :
      TracedLevel (load :: rest) opened closed (⟨load.call, start, none⟩ :: log)

end

theorem tracedLevel_nil (opened closed : Nat) (loads : List Load) :
    TracedLevel loads opened closed [] := by
  induction loads with
  | nil => exact .nil
  | cons other rest ih => exact .missing ih

theorem Traced.start_le_closed {load : Load} {start closed : Nat} {log : List Entry}
    (h : Traced load start closed log) : start ≤ closed := by
  cases h with
  | mk hclosed hbelow => exact (Nat.le_add_right _ _).trans hclosed

mutual

theorem Traced.start_le : ∀ {load : Load} {start closed : Nat} {log : List Entry},
    Traced load start closed log → ∀ entry ∈ log, start ≤ entry.start
  | .mk call duration failure next, start, closed, log => by
      intro h
      cases h with
      | mk hclosed hbelow =>
          refine List.forall_mem_cons.2 ⟨le_rfl, fun entry hentry => ?_⟩
          exact (Nat.le_add_right _ _).trans (hbelow.opened_le entry hentry)

theorem TracedLevel.opened_le : ∀ {loads : List Load} {opened closed : Nat} {log : List Entry},
    TracedLevel loads opened closed log → ∀ entry ∈ log, opened ≤ entry.start
  | [], opened, closed, log => by
      intro h
      cases h
      simp
  | load :: rest, opened, closed, log => by
      intro h
      cases h with
      | missing hrest => exact hrest.opened_le
      | made hstart hdone hload hrest =>
          intro entry hentry
          rcases List.mem_append.1 hentry with hentry | hentry
          · exact hstart.trans (hload.start_le entry hentry)
          · exact hrest.opened_le entry hentry
      | dropped hstart hclosed hlate hrest =>
          exact List.forall_mem_cons.2 ⟨hstart, hrest.opened_le⟩

end

mutual

theorem Traced.le_closed : ∀ {load : Load} {start closed : Nat} {log : List Entry},
    Traced load start closed log → ∀ entry ∈ log, entry.start ≤ closed ∧
      ∀ stop, entry.stop = some stop → stop ≤ closed
  | .mk call duration failure next, start, closed, log => by
      intro h
      cases h with
      | mk hclosed hbelow =>
          refine List.forall_mem_cons.2 ⟨⟨(Nat.le_add_right _ _).trans hclosed, ?_⟩, ?_⟩
          · intro stop hstop
            exact (Option.some.inj hstop).symm.trans_le hclosed
          · exact hbelow.le_closed

theorem TracedLevel.le_closed : ∀ {loads : List Load} {opened closed : Nat} {log : List Entry},
    TracedLevel loads opened closed log → ∀ entry ∈ log, entry.start ≤ closed ∧
      ∀ stop, entry.stop = some stop → stop ≤ closed
  | [], opened, closed, log => by
      intro h
      cases h
      simp
  | load :: rest, opened, closed, log => by
      intro h
      cases h with
      | missing hrest => exact hrest.le_closed
      | made hstart hdone hfront hrest =>
          intro entry hentry
          rcases List.mem_append.1 hentry with hentry | hentry
          · obtain ⟨hentryStart, hentryStop⟩ := hfront.le_closed entry hentry
            exact ⟨hentryStart.trans hdone, fun stop hstop => (hentryStop stop hstop).trans hdone⟩
          · exact hrest.le_closed entry hentry
      | dropped hstart hclosed hlate hrest =>
          exact List.forall_mem_cons.2 ⟨⟨hclosed, by simp⟩, hrest.le_closed⟩

end

section Paced

variable {delay : String → Nat}

mutual

theorem Traced.stop_eq : ∀ {load : Load} {start closed : Nat} {log : List Entry},
    load.Paced delay → Traced load start closed log →
      ∀ entry ∈ log, ∀ stop, entry.stop = some stop → stop = entry.start + delay entry.call.table
  | .mk call duration failure next, start, closed, log => by
      intro hpaced h
      cases hpaced with
      | mk hnext =>
          cases h with
          | mk hclosed hbelow =>
              refine List.forall_mem_cons.2 ⟨?_, hbelow.stop_eq hnext⟩
              intro stop hstop
              exact (Option.some.inj hstop).symm

theorem TracedLevel.stop_eq : ∀ {loads : List Load} {opened closed : Nat} {log : List Entry},
    (∀ load ∈ loads, load.Paced delay) → TracedLevel loads opened closed log →
      ∀ entry ∈ log, ∀ stop, entry.stop = some stop → stop = entry.start + delay entry.call.table
  | [], opened, closed, log => by
      intro _ h
      cases h
      simp
  | load :: rest, opened, closed, log => by
      intro hpaced h
      obtain ⟨hload, hothers⟩ := List.forall_mem_cons.1 hpaced
      cases h with
      | missing hrest => exact hrest.stop_eq hothers
      | made hstart hdone hfront hrest =>
          intro entry hentry
          rcases List.mem_append.1 hentry with hentry | hentry
          · exact hfront.stop_eq hload entry hentry
          · exact hrest.stop_eq hothers entry hentry
      | dropped hstart hclosed hlate hrest =>
          exact List.forall_mem_cons.2 ⟨by simp, hrest.stop_eq hothers⟩

end

end Paced

/-! ### Cuts -/

/-- The instants that a cut keeps are those before an instant, with it or without it. -/
structure CutsAt (instant : Nat) (reached : Nat → Bool) : Prop where
  reached_of_le : ∀ {one two : Nat}, one ≤ two → reached two = true → reached one = true
  le_of_reached : ∀ {time : Nat}, reached time = true → time ≤ instant
  le_of_not_reached : ∀ {time : Nat}, reached time = false → instant ≤ time

theorem cutsAt_le (instant : Nat) : CutsAt instant fun time => decide (time ≤ instant) where
  reached_of_le hle hreached := decide_eq_true (hle.trans (of_decide_eq_true hreached))
  le_of_reached hreached := of_decide_eq_true hreached
  le_of_not_reached hreached := Nat.le_of_not_le (of_decide_eq_false hreached)

theorem cutsAt_lt (instant : Nat) : CutsAt instant fun time => decide (time < instant) where
  reached_of_le hle hreached := decide_eq_true (hle.trans_lt (of_decide_eq_true hreached))
  le_of_reached hreached := (of_decide_eq_true hreached).le
  le_of_not_reached hreached := Nat.le_of_not_lt (of_decide_eq_false hreached)

section Cut

variable {instant : Nat} {reached : Nat → Bool}

theorem mem_cutBy {log : List Entry} {entry : Entry} : entry ∈ cutBy reached log ↔
    ∃ whole ∈ log, reached whole.start = true ∧
      entry = { whole with stop := whole.stop.filter reached } := by
  simp only [cutBy, List.mem_map, List.mem_filter, and_assoc, eq_comm (a := entry)]

theorem cutBy_append (front back : List Entry) :
    cutBy reached (front ++ back) = cutBy reached front ++ cutBy reached back := by
  simp [cutBy]

theorem cutBy_cons_of_reached {entry : Entry} {log : List Entry}
    (h : reached entry.start = true) :
    cutBy reached (entry :: log) =
      { entry with stop := entry.stop.filter reached } :: cutBy reached log := by
  simp [cutBy, h]

theorem cutBy_cons_of_not_reached {entry : Entry} {log : List Entry}
    (h : reached entry.start = false) : cutBy reached (entry :: log) = cutBy reached log := by
  simp [cutBy, h]

theorem CutsAt.cutBy_eq_nil (hcut : CutsAt instant reached) {start : Nat} {log : List Entry}
    (hstart : reached start = false) (hlog : ∀ entry ∈ log, start ≤ entry.start) :
    cutBy reached log = [] := by
  have hfilter : (log.filter fun entry => reached entry.start) = [] := by
    refine List.filter_eq_nil_iff.2 fun entry hentry hreached => ?_
    rw [hcut.reached_of_le (hlog entry hentry) hreached] at hstart
    cases hstart
  rw [cutBy, hfilter]
  rfl

/-- What a cut leaves of a load: the load, its call without an end, or nothing. -/
inductive CutTo (instant : Nat) (load : Load) (start closed : Nat) : List Entry → Prop where
  | made {log : List Entry} (h : Traced load start (min closed instant) log) :
      CutTo instant load start closed log
  | dropped (hstart : start ≤ instant) (hlate : instant ≤ start + load.duration) :
      CutTo instant load start closed [⟨load.call, start, none⟩]
  | missing : CutTo instant load start closed []

theorem CutTo.cons {load : Load} {rest : List Load} {opened start done closed : Nat}
    {front log : List Entry} (h : CutTo instant load start done front) (hopened : opened ≤ start)
    (hstart : start ≤ done) (hdone : min done instant ≤ closed) (hclosed : closed ≤ instant)
    (hrest : TracedLevel rest opened closed log) :
    TracedLevel (load :: rest) opened closed (front ++ log) := by
  cases h with
  | made hmade => exact .made hopened hdone hmade hrest
  | dropped hkept hlate =>
      have hbefore : start ≤ closed := (Nat.le_min.2 ⟨hstart, hkept⟩).trans hdone
      exact .dropped hopened hbefore (hclosed.trans hlate) hrest
  | missing => exact .missing hrest

mutual

theorem Traced.cut (hcut : CutsAt instant reached) :
    ∀ {load : Load} {start closed : Nat} {log : List Entry}, Traced load start closed log →
      CutTo instant load start closed (cutBy reached log)
  | .mk call duration failure next, start, closed, log => by
      intro h
      have hlog := h.start_le
      cases h with
      | mk hclosed hbelow =>
          cases hmade : reached start with
          | false =>
              rw [hcut.cutBy_eq_nil hmade hlog]
              exact .missing
          | true =>
              rw [cutBy_cons_of_reached hmade]
              cases hended : reached (start + duration) with
              | true =>
                  rw [Option.filter_some, if_pos hended]
                  have hdone : start + duration ≤ min closed instant :=
                    Nat.le_min.2 ⟨hclosed, hcut.le_of_reached hended⟩
                  exact .made (.mk hdone (hbelow.cut hcut))
              | false =>
                  -- What the call leads to would come after its end.
                  rw [Option.filter_some, if_neg (by simp [hended]),
                    hcut.cutBy_eq_nil hended hbelow.opened_le]
                  exact .dropped (hcut.le_of_reached hmade) (hcut.le_of_not_reached hended)

theorem TracedLevel.cut (hcut : CutsAt instant reached) :
    ∀ {loads : List Load} {opened closed : Nat} {log : List Entry},
      TracedLevel loads opened closed log →
        TracedLevel loads opened (min closed instant) (cutBy reached log)
  | [], opened, closed, log => by
      intro h
      cases h
      exact .nil
  | load :: rest, opened, closed, log => by
      intro h
      cases h with
      | missing hrest => exact .missing (hrest.cut hcut)
      | @made _ _ _ _ start done front log hstart hdone hload hrest =>
          have hmin : min done instant ≤ min closed instant :=
            Nat.le_min.2 ⟨(Nat.min_le_left _ _).trans hdone, Nat.min_le_right _ _⟩
          rw [cutBy_append]
          exact (hload.cut hcut).cons hstart hload.start_le_closed hmin (Nat.min_le_right _ _)
            (hrest.cut hcut)
      | @dropped _ _ _ _ start log hstart hclosed hlate hrest =>
          cases hmade : reached start with
          | false =>
              rw [cutBy_cons_of_not_reached hmade]
              exact .missing (hrest.cut hcut)
          | true =>
              rw [cutBy_cons_of_reached hmade]
              exact .dropped hstart (Nat.le_min.2 ⟨hclosed, hcut.le_of_reached hmade⟩)
                ((Nat.min_le_left _ _).trans hlate) (hrest.cut hcut)

end

/-- A load that is cancelled is cut at the instant, before or after what is due then. -/
theorem Traced.cutLog (since : Nat) {load : Load} {start closed : Nat} {log : List Entry}
    (h : Traced load start closed log) :
    CutTo instant load start closed (RecordSearch.cutLog instant since log) := by
  unfold RecordSearch.cutLog
  split
  · exact h.cut (cutsAt_le instant)
  · exact h.cut (cutsAt_lt instant)

end Cut

/-! ### Runs -/

section Runs

variable (window : Window)

mutual

/-- A run leaves the log of its load, over when the run is done. -/
theorem traced_run (start : Nat) : ∀ load : Load,
    Traced load start (run window start load).finish (run window start load).log
  | .mk _ _ (some _) next => .mk le_rfl (tracedLevel_nil _ _ next)
  | .mk _ duration none next =>
      .mk (latest_le_finish window (.start (start + duration)) next)
        (traced_runLevel next (.start (start + duration)) (Taken.ordered_start _))

theorem traced_runLevel : ∀ (loads : List Load) (taken : Taken), taken.Ordered →
    TracedLevel loads taken.opened (runLevel window taken loads).finish
      (runLevel window taken loads).log
  | [], taken => fun _ => .nil
  | load :: rest, taken => by
      intro hordered
      have hstart := hordered.opened_le_startOf window 0
      have hdone := finish_runNext_le_finish window taken load rest
      have hload := traced_run (taken.startOf window 0) load
      have hnext : (takeNext window taken load).Ordered := hordered.push _
      cases hfailure : (runNext window taken load).failure with
      | none =>
          rw [log_cons_of_none hfailure]
          refine .made hstart hdone hload ?_
          rw [finish_cons_of_none hfailure]
          exact traced_runLevel rest _ hnext
      | some e =>
          rw [log_cons_of_some hfailure]
          refine .made hstart hdone hload ?_
          rw [finish_cons_of_some hfailure]
          exact traced_inFlight rest taken 1 _ _ hordered

/-- What was in flight when a level ended is cut then. -/
theorem traced_inFlight : ∀ (loads : List Load) (taken : Taken) (ahead instant since : Nat),
    taken.Ordered → TracedLevel loads taken.opened instant
      ((inFlight window taken ahead loads).map (cutLog instant since)).flatten
  | [], _, _, _, _ => fun _ => .nil
  | load :: rest, taken, ahead, instant, since => by
      intro hordered
      have hload := traced_run (taken.startOf window ahead) load
      rw [inFlight]
      split
      · rw [List.map_cons, List.flatten_cons]
        exact (hload.cutLog since).cons (hordered.opened_le_startOf window ahead)
          hload.start_le_closed (Nat.min_le_right _ _) le_rfl
          (traced_inFlight rest taken (ahead + 1) instant since hordered)
      · exact tracedLevel_nil _ _ _

end

end Runs

end Load

end RecordSearch
