/-!
# Operations on a state

An operation answers, with a value or with an error, and leaves a state in either case.
-/

namespace HostMonitor

/-- What an operation answers, and the state that it leaves. -/
structure Performed (ε α σ : Type) where
  result : Except ε α
  state : σ

namespace Performed

variable {ε α σ τ : Type}

/-- The same answer, with the state as part of a larger one. -/
def within (p : Performed ε α σ) (f : σ → τ) : Performed ε α τ :=
  ⟨p.result, f p.state⟩

end Performed

end HostMonitor
