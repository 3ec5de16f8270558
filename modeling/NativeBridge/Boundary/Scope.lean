/-
  NativeBridge/Boundary/Scope.lean
  ================================
  **Containment.**  Neither a failure nor a panic may reach the native side.  `toExcept`
  turns both into an error; a containment scope goes further, logs the error and
  returns a default value, so that it always returns.

  `contained_done` and `contained_log` say that of a scope: its own outcome is a value
  whatever its body did, and it logs one event exactly when the body did not succeed.
-/
import NativeBridge.Boundary.Conversion

namespace NativeBridge

/-- Why a call did not return a value of its own. -/
inductive BoundaryError
  | failed (chain : List String)
  | panicked (message : String)
  deriving DecidableEq, Repr

def BoundaryError.message : BoundaryError → String
  | failed chain => "bridged call failed: " ++ chainText chain
  | panicked message => "bridged call panicked: " ++ message

/-- The value of an outcome, or why there is none. -/
def Outcome.toExcept {α : Type} : Outcome α → Except BoundaryError α
  | done a => .ok a
  | failed chain => .error (.failed chain)
  | panicked p => .error (.panicked p.message)

namespace Run

variable {τ α : Type}

/-- A containment scope: the value of the body, or the default and an event. -/
def contained (env : EnvHandle) (default : α) (body : Run τ α) : Run τ α :=
  match body.outcome.toExcept with
  | .ok a => ⟨body.calls, body.log, .done a⟩
  | .error e => ⟨body.calls, body.log ++ [.contained env.address e.message], .done default⟩

/-- Passes the error of a contained body on as a failure; what caused the error is part
    of its text and no longer of the chain. -/
def propagated (body : Run τ α) : Run τ α :=
  match body.outcome.toExcept with
  | .ok a => ⟨body.calls, body.log, .done a⟩
  | .error e => ⟨body.calls, body.log, .failed [e.message]⟩

def settled (default : α) (body : Run τ α) : α :=
  match body.outcome with
  | .done a => a
  | _ => default

theorem contained_done (env : EnvHandle) (default : α) (body : Run τ α) :
    (body.contained env default).outcome = .done (body.settled default) := by
  obtain ⟨calls, log, o⟩ := body
  cases o <;> rfl

theorem contained_log (env : EnvHandle) (default : α) (body : Run τ α) :
    (body.contained env default).log =
      body.log ++ match body.outcome.toExcept with
        | .ok _ => []
        | .error e => [.contained env.address e.message] := by
  obtain ⟨calls, log, o⟩ := body
  cases o <;> simp [contained, Outcome.toExcept]

theorem map_contained {β : Type} (env : EnvHandle) (default : α) (f : α → β)
    (body : Run τ α) :
    (body.contained env default).map f = (body.map f).contained env (f default) := by
  obtain ⟨calls, log, o⟩ := body
  cases o <;> rfl

end Run

end NativeBridge
