/-
  NativeBridge/Boundary/Attachment.lean
  =====================================
  **Attaching threads.**  A thread is attached when it first enters a bridge, and stays
  attached.  The state is the set of attached threads, so no step on one thread is
  seen by another.
-/
import NativeBridge.Boundary.Outcome

namespace NativeBridge

structure Threads where
  attached : List Nat
  deriving DecidableEq, Repr

namespace Threads

def initial : Threads := ⟨[]⟩

def isAttached (ts : Threads) (thread : Nat) : Bool := ts.attached.contains thread

/-- Attaches a thread, which is logged the first time. -/
def attach (ts : Threads) (thread : Nat) : Threads × List Event :=
  if ts.isAttached thread then (ts, []) else (⟨thread :: ts.attached⟩, [.attached])

/-- Runs a bridge on a thread, attaching it first. -/
def enter {τ α : Type} (ts : Threads) (thread : Nat) (bridge : Run τ α) : Threads × Run τ α :=
  let (ts', log) := ts.attach thread
  (ts', ⟨bridge.calls, log ++ bridge.log, bridge.outcome⟩)

theorem isAttached_attach (ts : Threads) (s t : Nat) :
    (ts.attach s).1.isAttached t = (s == t || ts.isAttached t) := by
  by_cases h : s ∈ ts.attached
  · by_cases hst : s = t
    · subst hst
      simp [attach, isAttached, h]
    · simp [attach, isAttached, h, hst]
  · by_cases hst : s = t
    · subst hst
      simp [attach, isAttached, h]
    · simp [attach, isAttached, h, hst, Ne.symm hst]

end Threads

end NativeBridge
