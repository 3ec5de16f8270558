/-
  NativeBridge/Boundary/Body.lean
  ===============================
  **Bodies.**  What code behind the boundary may do, as a tree: succeed, fail, panic,
  open a scope of its own, propagate the error of a contained body, or convert a
  string.  Running a body is one pass over the tree.
-/
import NativeBridge.Boundary.Scope

namespace NativeBridge

inductive Body (α : Type)
  | succeed (a : α)
  | fail (chain : List String)
  | panic (payload : Payload)
  | scope (env : EnvHandle) (default : α) (body : Body α)
  | propagate (body : Body α)
  | readString (handle : NativeString)
  | writeString (text : String)
  deriving Inhabited, Repr

/-- The run of a body; the converted strings become values by the two functions. -/
def Body.run {τ α : Type} (ofText : String → α) (ofBytes : List UInt8 → α) : Body α → Run τ α
  | succeed a => .ofOutcome (.done a)
  | fail chain => .ofOutcome (.failed chain)
  | panic p => .ofOutcome (.panicked p)
  | scope env default body => (body.run ofText ofBytes).contained env default
  | propagate body => (body.run ofText ofBytes).propagated
  | readString handle => .map ofText (.ofConversion (textOfNative handle))
  | writeString text => .map ofBytes (.ofConversion (nativeOfText text))

end NativeBridge
