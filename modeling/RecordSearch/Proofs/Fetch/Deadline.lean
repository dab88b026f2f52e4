import RecordSearch.Proofs.Fetch.Abort
import RecordSearch.Proofs.Fetch.Late

/-!
# Requests under deadlines

A deadline cuts the log of a request. What holds of the log of a run holds of what the cut leaves:
the calls for the related records of a batch come after the call that brought the batch, no call is
made or ends after the request, and only a request that fails leaves calls without an end.
-/

namespace RecordSearch

/-- What the log of an outcome tells of the load of its request. -/
structure Outcome.Accounts {α : Type} (repository : Repository) (load : Load)
    (outcome : Outcome α) : Prop where
  nested : Load.TracedLevel [load] 0 outcome.elapsed outcome.log
  start_le : ∀ entry ∈ outcome.log, entry.start ≤ outcome.elapsed
  stop_eq : ∀ entry ∈ outcome.log, ∀ stop, entry.stop = some stop →
    stop = entry.start + repository.backend.delay entry.call.table ∧ stop ≤ outcome.elapsed
  ended : ∀ answer, outcome.result = .ok answer →
    ∀ entry ∈ outcome.log, ∃ stop, entry.stop = some stop
  late : repository.source.LeadsOnFirst →
    Load.Late repository.backend.delay outcome.elapsed outcome.log

namespace TaggedTree

end TaggedTree

/-- An outcome under a deadline, if there is one. -/
def Outcome.under {α : Type} (outcome : Outcome α) (deadline : Option Duration) : Outcome α :=
  deadline.elim outcome outcome.within

section Accounts

variable {α : Type} {repository : Repository} {load : Load} {outcome : Outcome α}

theorem Outcome.accounts_of_traced (hpaced : load.Paced repository.backend.delay)
    (hnested : Load.TracedLevel [load] 0 outcome.elapsed outcome.log)
    (hended : ∀ answer, outcome.result = .ok answer →
      ∀ entry ∈ outcome.log, ∃ stop, entry.stop = some stop)
    (hlate : repository.source.LeadsOnFirst →
      Load.Late repository.backend.delay outcome.elapsed outcome.log) :
    outcome.Accounts repository load := by
  have hwithin := hnested.le_closed
  have hstops := hnested.stop_eq (List.forall_mem_singleton.2 hpaced)
  refine ⟨hnested, fun entry hentry => (hwithin entry hentry).1, ?_, hended, hlate⟩
  intro entry hentry stop hstop
  exact ⟨hstops entry hentry stop hstop, (hwithin entry hentry).2 stop hstop⟩

/-- A call that a deadline drops has either been dropped later or would have ended later. -/
theorem late_truncateLog {delay : String → Nat} {deadline closed : Nat} {log : List Entry}
    (hclosed : deadline < closed)
    (hstops : ∀ entry ∈ log, ∀ stop, entry.stop = some stop →
      stop = entry.start + delay entry.call.table)
    (hlate : Load.Late delay closed log) : Load.Late delay deadline (truncateLog deadline log) := by
  intro entry hentry hnone
  obtain ⟨whole, hwhole, rfl⟩ := List.mem_map.1 hentry
  have hmem : whole ∈ log := (List.mem_filter.1 hwhole).1
  cases hstop : whole.stop with
  | none =>
      have hbeyond := hlate whole hmem hstop
      exact hclosed.le.trans hbeyond
  | some stop =>
      have hkept : ¬ stop ≤ deadline := by simpa [hstop] using hnone
      have hdue := hstops whole hmem stop hstop
      rw [← hdue]
      exact Nat.le_of_not_le hkept

theorem Outcome.Accounts.within (h : outcome.Accounts repository load)
    (hpaced : load.Paced repository.backend.delay) (deadline : Duration) :
    (outcome.within deadline).Accounts repository load := by
  by_cases hkept : outcome.elapsed ≤ deadline.millis
  · rw [Outcome.within, if_pos hkept]
    exact h
  · rw [Outcome.within, if_neg hkept]
    apply Outcome.accounts_of_traced hpaced
    · have hcut := h.nested.cut (Load.cutsAt_le deadline.millis)
      rw [Nat.min_eq_right (Nat.le_of_not_le hkept)] at hcut
      exact hcut
    · intro answer hanswer
      cases hanswer
    · intro hfirst
      exact late_truncateLog (Nat.lt_of_not_le hkept)
        (fun entry hentry stop hstop => (h.stop_eq entry hentry stop hstop).1) (h.late hfirst)

theorem Outcome.Accounts.under (h : outcome.Accounts repository load)
    (hpaced : load.Paced repository.backend.delay) (deadline : Option Duration) :
    (outcome.under deadline).Accounts repository load := by
  cases deadline with
  | none => exact h
  | some deadline => exact h.within hpaced deadline

end Accounts

namespace Repository

variable (repository : Repository)

end Repository

end RecordSearch
