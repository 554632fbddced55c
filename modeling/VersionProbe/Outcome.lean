/-
# Outcomes

What an operation comes to: its result, the state it leaves behind, and the trace of what it did.
A failure leaves a state and a trace as well.

* `andThen_of_ok`, `andThen_of_error` : the second of two operations runs exactly when the first
  succeeds, from the state that the first leaves.
-/
import VersionProbe.Trace

namespace VersionProbe

/-- The result, the state afterwards, and the trace of an operation. -/
structure Outcome (σ ε α : Type) where
  result : Except ε α
  state : σ
  trace : Trace

namespace Outcome

variable {σ ε α β : Type}

/-- The same outcome after some earlier effects. -/
def after (earlier : Trace) (o : Outcome σ ε α) : Outcome σ ε α :=
  { o with trace := earlier ++ o.trace }

/-- An operation and, if it succeeds, a second one that starts from its result and its state. -/
def andThen (o : Outcome σ ε α) (next : α → σ → Outcome σ ε β) : Outcome σ ε β :=
  match o.result with
  | .ok a => (next a o.state).after o.trace
  | .error e => ⟨.error e, o.state, o.trace⟩

/-- Earlier effects do not change the result. -/
@[simp] theorem after_result (t : Trace) (o : Outcome σ ε α) : (o.after t).result = o.result := rfl

/-- Earlier effects do not change the state. -/
@[simp] theorem after_state (t : Trace) (o : Outcome σ ε α) : (o.after t).state = o.state := rfl

/-- Earlier effects come first in the trace. -/
@[simp] theorem after_trace (t : Trace) (o : Outcome σ ε α) : (o.after t).trace = t ++ o.trace :=
  rfl

/-- After a success the second operation decides. -/
theorem andThen_of_ok {o : Outcome σ ε α} {a : α} (h : o.result = .ok a)
    (next : α → σ → Outcome σ ε β) : o.andThen next = (next a o.state).after o.trace := by
  rw [andThen, h]

/-- After a failure the second operation does not run. -/
theorem andThen_of_error {o : Outcome σ ε α} {e : ε} (h : o.result = .error e)
    (next : α → σ → Outcome σ ε β) : o.andThen next = ⟨.error e, o.state, o.trace⟩ := by
  rw [andThen, h]

end Outcome

end VersionProbe
