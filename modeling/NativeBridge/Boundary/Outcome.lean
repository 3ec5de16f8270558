/-
  NativeBridge/Boundary/Outcome.lean
  ==================================
  **Runs.**  Code behind the boundary ends in one of three ways: with a value, with a
  failure that has a chain of causes, or with a panic.  A run is such an end together
  with the calls that were made and the events that were logged on the way.

  Runs follow one another: `andThen_assoc` says that it does not matter how a sequence
  of them is grouped.
-/
import NativeBridge.Event

namespace NativeBridge

/-- What a panic carries. -/
inductive Payload
  /-- A text that is part of the program. -/
  | fixed (text : String)
  /-- A text made when the panic happened. -/
  | made (text : String)
  | other
  deriving DecidableEq, Repr

def Payload.message : Payload → String
  | fixed text => text
  | made text => text
  | other => "non-string panic payload"

/-- How code ends; a chain of causes goes from the outermost to the root. -/
inductive Outcome (α : Type)
  | done (a : α)
  | failed (chain : List String)
  | panicked (payload : Payload)
  deriving DecidableEq, Repr

/-- The text of a chain of causes. -/
def chainText (chain : List String) : String := ": ".intercalate chain

namespace Outcome

def map {α β : Type} (f : α → β) : Outcome α → Outcome β
  | done a => done (f a)
  | failed chain => failed chain
  | panicked p => panicked p

end Outcome

/-- An outcome with the calls made and the events logged before it. -/
structure Run (τ α : Type) where
  calls : List τ
  log : List Event
  outcome : Outcome α
  deriving DecidableEq, Repr

namespace Run

variable {τ α β : Type}

def ofOutcome (o : Outcome α) : Run τ α := ⟨[], [], o⟩

/-- The run that makes one call and does nothing else. -/
def call (c : τ) : Run τ Unit := ⟨[c], [], .done ()⟩

def map (f : α → β) (r : Run τ α) : Run τ β := ⟨r.calls, r.log, r.outcome.map f⟩

/-- Goes on with the value; a failure or a panic ends the run. -/
def andThen (r : Run τ α) (f : α → Run τ β) : Run τ β :=
  match r.outcome with
  | .done a => ⟨r.calls ++ (f a).calls, r.log ++ (f a).log, (f a).outcome⟩
  | .failed chain => ⟨r.calls, r.log, .failed chain⟩
  | .panicked p => ⟨r.calls, r.log, .panicked p⟩

instance : Monad (Run τ) where
  pure a := ofOutcome (.done a)
  bind := andThen

/-- The same run by code that cannot report a failure and panics instead. -/
def unfailing (r : Run τ α) : Run τ α :=
  match r.outcome with
  | .failed chain => ⟨r.calls, r.log, .panicked (.made (chainText chain))⟩
  | _ => r

/-! ### Laws -/

@[simp] theorem ofOutcome_done_andThen (a : α) (f : α → Run τ β) :
    (ofOutcome (.done a) : Run τ α).andThen f = f a := by
  simp [andThen, ofOutcome]

theorem andThen_assoc {γ : Type} (r : Run τ α) (f : α → Run τ β) (g : β → Run τ γ) :
    (r.andThen f).andThen g = r.andThen fun a => (f a).andThen g := by
  obtain ⟨calls, log, o⟩ := r
  cases o with
  | done a => cases h : (f a).outcome <;> simp [andThen, h]
  | failed chain => rfl
  | panicked p => rfl

theorem map_andThen {γ : Type} (r : Run τ α) (f : α → β) (g : β → Run τ γ) :
    (r.map f).andThen g = r.andThen fun a => g (f a) := by
  obtain ⟨calls, log, o⟩ := r
  cases o <;> rfl

theorem andThen_map {γ : Type} (r : Run τ α) (f : α → Run τ β) (g : β → γ) :
    (r.andThen f).map g = r.andThen fun a => (f a).map g := by
  obtain ⟨calls, log, o⟩ := r
  cases o <;> rfl

theorem andThen_done (r : Run τ α) : (r.andThen fun a => ofOutcome (.done a)) = r := by
  obtain ⟨calls, log, o⟩ := r
  cases o <;> simp [andThen, ofOutcome]

theorem bind_eq_andThen (r : Run τ α) (f : α → Run τ β) : (r >>= f) = r.andThen f := rfl

theorem map_pure (f : α → β) (a : α) :
    (pure a : Run τ α).map f = ofOutcome (.done (f a)) := rfl

theorem andThen_done_map (r : Run τ α) (f : α → β) :
    (r.andThen fun a => ofOutcome (.done (f a))) = r.map f := by
  obtain ⟨calls, log, o⟩ := r
  cases o <;> simp [andThen, ofOutcome, map, Outcome.map]

theorem map_unfailing (f : α → β) (r : Run τ α) : (r.map f).unfailing = r.unfailing.map f := by
  obtain ⟨calls, log, o⟩ := r
  cases o <;> rfl

/-- Code that cannot report a failure ends in another way. -/
theorem unfailing_outcome (r : Run τ α) (chain : List String) :
    r.unfailing.outcome ≠ .failed chain := by
  obtain ⟨calls, log, o⟩ := r
  cases o <;> simp [unfailing]

end Run

end NativeBridge
