import Mathlib.Data.List.Count
import Mathlib.Order.Bounds.Defs
import Mathlib.Order.Nat

/-!
# Bounded queues

A queue with a number of places serves jobs in order. A job enters when a place is free, and gives
its place back when it has ended and every job before it has: a job that ends early waits inside for
the jobs before it. Each job is known by its end, which depends on its start.

The jobs that fit into the places start at once, and each later one starts at the latest end of the
jobs up to the one that many places before it. No more jobs than places are running at any instant.
-/

namespace RecordSearch

structure Span where
  start : Nat
  finish : Nat
  deriving DecidableEq, Repr

namespace Queue

/-- What a queue does from an instant on: `inside` are the ends of the jobs that hold a place, in
order, and `waiting` are the jobs that do not hold one yet. -/
inductive Serves (width : Nat) :
    Nat → List Nat → List (Nat → Nat) → List Span → Nat → Prop where
  | enter {now : Nat} {inside : List Nat} {job : Nat → Nat} {waiting : List (Nat → Nat)}
      {spans : List Span} {done : Nat}
      (hfree : inside.length < width)
      (h : Serves width now (inside ++ [job now]) waiting spans done) :
      Serves width now inside (job :: waiting) (⟨now, job now⟩ :: spans) done
  | leave {now finish : Nat} {inside : List Nat} {waiting : List (Nat → Nat)}
      {spans : List Span} {done : Nat}
      (hfull : waiting = [] ∨ inside.length + 1 = width)
      (h : Serves width (max now finish) inside waiting spans done) :
      Serves width now (finish :: inside) waiting spans done
  | idle {now : Nat} : Serves width now [] [] [] now

/-- The latest of an instant and some ends. -/
def latest (now : Nat) (ends : List Nat) : Nat :=
  ends.foldl max now

section Latest

variable {now : Nat} {ends : List Nat}

@[simp]
theorem latest_nil : latest now [] = now := rfl

@[simp]
theorem latest_cons (finish : Nat) :
    latest now (finish :: ends) = latest (max now finish) ends := rfl

theorem le_latest : now ≤ latest now ends := by
  induction ends generalizing now with
  | nil => exact le_rfl
  | cons finish ends ih => exact (Nat.le_max_left now finish).trans ih

theorem le_latest_of_mem {finish : Nat} (h : finish ∈ ends) : finish ≤ latest now ends := by
  induction ends generalizing now with
  | nil => cases h
  | cons first ends ih =>
      rcases List.mem_cons.1 h with rfl | h
      · exact (Nat.le_max_right now finish).trans le_latest
      · exact ih h

theorem latest_eq_or_mem (now : Nat) (ends : List Nat) :
    latest now ends = now ∨ latest now ends ∈ ends := by
  induction ends generalizing now with
  | nil => exact Or.inl rfl
  | cons finish ends ih =>
      rw [latest_cons]
      rcases ih (max now finish) with heq | hmem
      · rw [heq]
        rcases Nat.le_total now finish with hle | hle
        · exact Or.inr (by simp [Nat.max_eq_right hle])
        · exact Or.inl (Nat.max_eq_left hle)
      · exact Or.inr (List.mem_cons_of_mem _ hmem)

theorem isGreatest_latest (hne : ends ≠ []) (hnow : ∀ finish ∈ ends, now ≤ finish) :
    IsGreatest {finish | finish ∈ ends} (latest now ends) := by
  refine ⟨?_, fun finish hfinish => le_latest_of_mem hfinish⟩
  rcases latest_eq_or_mem now ends with heq | hmem
  · obtain ⟨first, hfirst⟩ := List.exists_mem_of_ne_nil ends hne
    have hle : first ≤ now := heq ▸ le_latest_of_mem hfirst
    have hsame : now = first := Nat.le_antisymm (hnow first hfirst) hle
    change latest now ends ∈ ends
    rw [heq, hsame]
    exact hfirst
  · exact hmem

end Latest

namespace Serves

variable {width now done : Nat} {inside : List Nat} {waiting : List (Nat → Nat)}
  {spans : List Span}

theorem length_spans (h : Serves width now inside waiting spans done) :
    spans.length = waiting.length := by
  induction h with
  | enter hfree h ih => simp [ih]
  | leave hfull h ih => exact ih
  | idle => rfl

theorem le_start (h : Serves width now inside waiting spans done) :
    ∀ span ∈ spans, now ≤ span.start := by
  induction h with
  | enter hfree h ih => exact List.forall_mem_cons.2 ⟨le_rfl, ih⟩
  | leave hfull h ih =>
      intro span hspan
      exact (Nat.le_max_left _ _).trans (ih span hspan)
  | idle => simp

theorem start_le_finish (h : Serves width now inside waiting spans done)
    (hjobs : ∀ job ∈ waiting, ∀ start, start ≤ job start) :
    ∀ span ∈ spans, span.start ≤ span.finish := by
  induction h with
  | enter hfree h ih =>
      obtain ⟨hjob, hwaiting⟩ := List.forall_mem_cons.1 hjobs
      exact List.forall_mem_cons.2 ⟨hjob _, ih hwaiting⟩
  | leave hfull h ih => exact ih hjobs
  | idle => simp

/-- A job starts when all that entered before it, but for one less than the places, have left. -/
theorem start_eq_latest (h : Serves width now inside waiting spans done) (place : Nat)
    (hplace : place < spans.length) :
    spans[place].start = latest now
      ((inside ++ spans.map (·.finish)).take (inside.length + place + 1 - width)) := by
  induction h generalizing place with
  | @enter now inside job waiting spans done hfree h ih =>
      cases place with
      | zero =>
          have hnone : inside.length + 0 + 1 - width = 0 := by omega
          simp [hnone]
      | succ place =>
          have hlength : (inside ++ [job now]).length + place = inside.length + (place + 1) := by
            simp
            omega
          have hlater := ih place (by simpa using hplace)
          rw [hlength, List.append_assoc] at hlater
          exact hlater
  | @leave now finish inside waiting spans done hfull h ih =>
      rcases hfull with rfl | hfull
      · have hlength := h.length_spans
        rw [List.length_nil] at hlength
        omega
      · have hlater := ih place hplace
        have hleft : inside.length + place + 1 - width = place := by omega
        have htake : (finish :: inside).length + place + 1 - width = place + 1 := by
          simp
          omega
        rw [hleft] at hlater
        rw [htake, List.cons_append, List.take_succ_cons, latest_cons]
        exact hlater
  | idle => simp at hplace

theorem done_eq_latest (h : Serves width now inside waiting spans done) :
    done = latest now (inside ++ spans.map (·.finish)) := by
  induction h with
  | enter hfree h ih => simpa using ih
  | leave hfull h ih => exact ih
  | idle => rfl

/-- The jobs inside that have not ended and those that enter later and are running do not exceed the
places. -/
theorem countP_running_le (h : Serves width now inside waiting spans done)
    (hinside : inside.length ≤ width) (instant : Nat) :
    inside.countP (fun finish => instant < finish) +
      spans.countP (fun span => span.start ≤ instant ∧ instant < span.finish) ≤ width := by
  have hbefore : ∀ {now inside waiting spans done}, Serves width now inside waiting spans done →
      instant < now →
      spans.countP (fun span => span.start ≤ instant ∧ instant < span.finish) = 0 := by
    intro now inside waiting spans done h hnow
    refine List.countP_eq_zero.2 fun span hspan => ?_
    have hstart := h.le_start span hspan
    simp only [decide_eq_true_eq]
    omega
  induction h with
  | @enter now inside job waiting spans done hfree h ih =>
      have hfits : (inside ++ [job now]).length ≤ width := by
        simp
        omega
      have hlater := ih hfits
      rw [List.countP_append, List.countP_singleton] at hlater
      rw [List.countP_cons]
      by_cases hnow : now ≤ instant
      · simp only [hnow, true_and] at hlater ⊢
        omega
      · simp only [hnow, false_and, decide_false, Bool.false_eq_true, if_false]
        omega
  | @leave now finish inside waiting spans done hfull h ih =>
      have hlater := ih (Nat.le_of_succ_le hinside)
      by_cases hfinish : instant < finish
      · have hzero := hbefore h (Nat.lt_of_lt_of_le hfinish (Nat.le_max_right now finish))
        have hcount := List.countP_le_length (p := fun finish => decide (instant < finish))
          (l := finish :: inside)
        omega
      · rw [List.countP_cons]
        simp only [hfinish, decide_false, Bool.false_eq_true, if_false]
        omega
  | idle => simp

/-! ### A queue that starts empty -/

variable (h : Serves width now [] waiting spans done)
include h

theorem start_of_lt {place : Nat} (hplace : place < spans.length) (hlt : place < width) :
    spans[place].start = now := by
  have hnone : ([] : List Nat).length + place + 1 - width = 0 := by
    simp
    omega
  rw [h.start_eq_latest place hplace, hnone]
  rfl

theorem now_le_of_mem_finish (hjobs : ∀ job ∈ waiting, ∀ start, start ≤ job start) :
    ∀ finish ∈ spans.map (·.finish), now ≤ finish := by
  intro finish hfinish
  obtain ⟨span, hspan, rfl⟩ := List.mem_map.1 hfinish
  exact (h.le_start span hspan).trans (h.start_le_finish hjobs span hspan)

theorem isGreatest_start_of_le (hjobs : ∀ job ∈ waiting, ∀ start, start ≤ job start)
    {place : Nat} (hplace : place < spans.length) (hle : width ≤ place) :
    IsGreatest {finish | finish ∈ (spans.map (·.finish)).take (place - width + 1)}
      spans[place].start := by
  have hcount : ([] : List Nat).length + place + 1 - width = place - width + 1 := by
    simp
    omega
  rw [h.start_eq_latest place hplace, hcount, List.nil_append]
  refine isGreatest_latest ?_ fun finish hfinish => ?_
  · intro hnil
    have hlength := congrArg List.length hnil
    simp only [List.length_take, List.length_map, List.length_nil] at hlength
    omega
  · exact h.now_le_of_mem_finish hjobs finish (List.mem_of_mem_take hfinish)

theorem isGreatest_done (hjobs : ∀ job ∈ waiting, ∀ start, start ≤ job start)
    (hne : spans ≠ []) : IsGreatest {finish | finish ∈ spans.map (·.finish)} done := by
  rw [h.done_eq_latest, List.nil_append]
  exact isGreatest_latest (by simpa using hne) (h.now_le_of_mem_finish hjobs)

theorem countP_le_width (instant : Nat) :
    spans.countP (fun span => span.start ≤ instant ∧ instant < span.finish) ≤ width := by
  simpa using h.countP_running_le (Nat.zero_le width) instant

end Serves

end Queue

end RecordSearch
