import RecordSearch.Catalogue.FantasyLeague
import RecordSearch.Catalogue.TaggedTree
import RecordSearch.Proofs.Fetch.Ending

/-!
# Calls without an end

How late a dropped call would have ended depends on the graph of relations. Where only the first
relation of each level leads on, as in both catalogues, a failure is never held up on its way to the
request: no call is dropped that would have ended before the run was done.
-/

namespace RecordSearch

/-- Whether only the first relation of each level leads on to further relations. -/
inductive Source.LeadsOnFirst : Source → Prop where
  | leaf (entity : Entity) : LeadsOnFirst (.mk entity [])
  | level {entity : Entity} {relation : Relation} {source : Source}
      {rest : List (Relation × Source)} (hfirst : source.LeadsOnFirst)
      (hrest : ∀ other ∈ rest, other.2.relations = []) :
      LeadsOnFirst (.mk entity ((relation, source) :: rest))

namespace Load

/-- Whether only the first load of a level, and of each level below it, leads on. -/
inductive LedByFirst : List Load → Prop where
  | nil : LedByFirst []
  | cons {load : Load} {rest : List Load} (hfirst : LedByFirst load.next)
      (hrest : ∀ other ∈ rest, other.next = []) : LedByFirst (load :: rest)

/-- Whether every call without an end would have ended at an instant or after it. -/
def Late (delay : String → Nat) (closed : Nat) (log : List Entry) : Prop :=
  ∀ entry ∈ log, entry.stop = none → closed ≤ entry.start + delay entry.call.table

section Late

variable {delay : String → Nat} {window : Window}

theorem late_of_stops {closed : Nat} {log : List Entry}
    (h : ∀ entry ∈ log, ∃ stop, entry.stop = some stop) : Late delay closed log := by
  intro entry hentry hnone
  obtain ⟨stop, hstop⟩ := h entry hentry
  rw [hnone] at hstop
  cases hstop

theorem Late.append {closed : Nat} {front back : List Entry} (hfront : Late delay closed front)
    (hback : Late delay closed back) : Late delay closed (front ++ back) := by
  intro entry hentry
  rcases List.mem_append.1 hentry with hentry | hentry
  · exact hfront entry hentry
  · exact hback entry hentry

theorem Traced.exists_stop_of_leaf {load : Load} (hleaf : load.next = []) {start closed : Nat}
    {log : List Entry} (h : Traced load start closed log) :
    ∀ entry ∈ log, ∃ stop, entry.stop = some stop := by
  obtain ⟨call, duration, failure, next⟩ := load
  obtain rfl : next = [] := hleaf
  cases h with
  | mk hclosed hbelow =>
      cases hbelow
      intro entry hentry
      rw [List.mem_singleton.1 hentry]
      exact ⟨_, rfl⟩

/-- Of loads that do not lead on, only those have no end that were dropped when the level was
over. -/
theorem TracedLevel.late_of_leaves {loads : List Load} {opened closed : Nat} {log : List Entry}
    (hleaves : ∀ load ∈ loads, load.next = []) (hpaced : ∀ load ∈ loads, load.Paced delay)
    (h : TracedLevel loads opened closed log) : Late delay closed log := by
  induction loads generalizing log with
  | nil =>
      cases h
      exact late_of_stops (by simp)
  | cons load rest ih =>
      obtain ⟨hleaf, hleaves⟩ := List.forall_mem_cons.1 hleaves
      obtain ⟨hload, hothers⟩ := List.forall_mem_cons.1 hpaced
      cases h with
      | missing hrest => exact ih hleaves hothers hrest
      | made hstart hdone hfront hrest =>
          exact (late_of_stops (hfront.exists_stop_of_leaf hleaf)).append
            (ih hleaves hothers hrest)
      | dropped hstart hclosed hlate hrest =>
          refine List.forall_mem_cons.2 ⟨?_, ih hleaves hothers hrest⟩
          intro _
          rw [← hload.duration_eq]
          exact hlate

theorem exists_stop_of_none {start : Nat} {load : Load}
    (hnone : (run window start load).failure = none) :
    ∀ entry ∈ (run window start load).log, ∃ stop, entry.stop = some stop := by
  obtain ⟨ended, dropped, hending, -⟩ := exists_ending window start load
  intro entry hentry
  rw [hending.log, hending.dropped_eq_nil (Or.inl hnone), List.append_nil] at hentry
  obtain ⟨stop, hstop, -⟩ := hending.stop_le entry hentry
  exact ⟨stop, hstop⟩

mutual

theorem late_run (start : Nat) : ∀ load : Load, load.Paced delay → LedByFirst load.next →
    Late delay (run window start load).finish (run window start load).log
  | .mk call duration (some e) next => fun _ _ =>
      late_of_stops (by simp [run])
  | .mk call duration none next => by
      intro hpaced hled
      have hbelow := late_runLevel (start + duration) next hpaced.next hled
      exact List.forall_mem_cons.2 ⟨by simp, hbelow⟩

theorem late_runLevel (opened : Nat) : ∀ loads : List Load,
    (∀ load ∈ loads, load.Paced delay) → LedByFirst loads →
      Late delay (runLevel window (.start opened) loads).finish
        (runLevel window (.start opened) loads).log
  | [] => fun _ _ => late_of_stops (by simp [runLevel])
  | load :: rest => by
      intro hpaced hled
      obtain ⟨hload, hothers⟩ := List.forall_mem_cons.1 hpaced
      cases hled with
      | cons hfirst hrest =>
          have hordered := Taken.ordered_start opened
          cases hfailure : (runNext window (.start opened) load).failure with
          | none =>
              rw [finish_cons_of_none hfailure, log_cons_of_none hfailure]
              have hbehind := traced_runLevel window rest
                (takeNext window (.start opened) load) (hordered.push _)
              exact (late_of_stops (exists_stop_of_none hfailure)).append
                (hbehind.late_of_leaves hrest hothers)
          | some e =>
              -- The first result is taken when it is there.
              have hopened : opened ≤ (runNext window (.start opened) load).finish :=
                (hordered.opened_le_startOf window 0).trans
                  (traced_run window _ load).start_le_closed
              have hfinish : (takeNext window (.start opened) load).latest =
                  (runNext window (.start opened) load).finish := by
                rw [takeNext_latest]
                exact Nat.max_eq_right hopened
              rw [finish_cons_of_some hfailure, log_cons_of_some hfailure]
              have hbeside := traced_inFlight window rest (.start opened) 1
                (takeNext window (.start opened) load).latest
                (takeNext window (.start opened) load).since hordered
              apply Late.append
              · rw [hfinish]
                exact late_run _ load hload hfirst
              · exact hbeside.late_of_leaves hrest hothers

end

end Late

end Load

/-! ### Plans along first relations -/

section Plan

variable {backend : Backend} {delay : String → Nat} {directives : Directives}
  {parents : List Record}

end Plan

/-! ### Catalogues -/

namespace TaggedTree

end TaggedTree

namespace FantasyLeague

end FantasyLeague

end RecordSearch
