/-
  ClusterAccess.Action

  Actions on a state that may fail. What an action changed before it failed
  stays changed: a failed call has been made, and a name that was noted down is
  noted.
-/
import ClusterAccess.Fault

namespace ClusterAccess

/-- An action on a state: it gives an answer or a fault, and a new state either way. -/
abbrev Action (σ : Type) := EStateM Fault σ

namespace Action

variable {σ τ α : Type}

/-- An action on a part of a state, as an action on the whole. -/
def onPart (get : τ → σ) (put : σ → τ → τ) (act : Action σ α) : Action τ α := fun t =>
  match act (get t) with
  | .ok a s => .ok a (put s t)
  | .error e s => .error e (put s t)

/-- An answer or a fault that needs no state. -/
def ofExcept {ε : Type} (wrap : ε → Fault) : Except ε α → Action σ α
  | .ok a => pure a
  | .error e => throw (wrap e)

/-- Runs an action: its outcome, and the state after it. -/
def outcome (act : Action σ α) (s : σ) : Except Fault α × σ :=
  match act s with
  | .ok a s => (.ok a, s)
  | .error e s => (.error e, s)

end Action
end ClusterAccess
