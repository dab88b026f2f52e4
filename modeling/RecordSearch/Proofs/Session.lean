import Mathlib.Data.List.Induction

/-!
# Sessions

A machine is given one operation after the other. Its session is what was asked and answered, in
this order, and the state in which it ends. What holds at the start and is kept by every operation
holds at the end of every session.
-/

namespace RecordSearch

/-- What a machine was asked, with its answers, and the state in which this leaves it. -/
structure Session (State Operation Answer : Type) where
  history : List (Operation × Answer)
  state : State

namespace Session

variable {State Operation Answer : Type}

/-- The session in which a machine is given operations in order. -/
def run (perform : State → Operation → Answer × State) (s : State) :
    List Operation → Session State Operation Answer
  | [] => ⟨[], s⟩
  | operation :: rest =>
    let later := run perform (perform s operation).2 rest
    ⟨(operation, (perform s operation).1) :: later.history, later.state⟩

variable {perform : State → Operation → Answer × State} {s : State}

theorem run_concat (operations : List Operation) (next : Operation) :
    run perform s (operations ++ [next]) =
      ⟨(run perform s operations).history ++
          [(next, (perform (run perform s operations).state next).1)],
        (perform (run perform s operations).state next).2⟩ := by
  induction operations generalizing s with
  | nil => rfl
  | cons operation rest ih =>
      rw [List.cons_append, run, ih]
      rfl

/-- The operations of a session are those that the machine was given. -/
theorem map_history_run (operations : List Operation) :
    (run perform s operations).history.map (·.1) = operations := by
  induction operations generalizing s with
  | nil => rfl
  | cons operation rest ih => exact congrArg (operation :: ·) ih

/-- **Induction along a session.** What holds of the empty history and is kept, step by step, as the
history grows holds at the end of every session. -/
theorem run_induction {Holds : List (Operation × Answer) → State → Prop} (start : Holds [] s)
    (step : ∀ past now next, Holds past now →
      Holds (past ++ [(next, (perform now next).1)]) (perform now next).2)
    (operations : List Operation) :
    Holds (run perform s operations).history (run perform s operations).state := by
  induction operations using List.reverseRecOn with
  | nil => exact start
  | append_singleton operations next ih =>
      rw [run_concat]
      exact step _ _ next ih

end Session

end RecordSearch
