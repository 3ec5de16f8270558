/-
  NativeBridge/Boundary/Handle.lean
  =================================
  **Handles.**  What crosses the boundary by address.  The bridges compare handles and
  pass them on; they never look behind one, except for a native string, of which the
  bytes in front of its NUL are read.
-/
import NativeBridge.Text.Quoted

namespace NativeBridge

/-- The environment of a call; a null one belongs to no native caller. -/
structure EnvHandle where
  address : UInt64
  deriving DecidableEq, Repr

/-- The class that a bridge is called on. -/
structure ClassHandle where
  address : UInt64
  deriving DecidableEq, Repr

/-- A pointer that the native side keeps for the implementation. -/
structure NativePointer where
  address : UInt64
  deriving DecidableEq, Repr

/-- The address of a native string. -/
structure StringHandle where
  address : UInt64
  deriving DecidableEq, Repr

/-- What a native string handle leads to: nothing, or the bytes from there on. -/
abbrev NativeString := Option (List UInt8)

def EnvHandle.detached : EnvHandle := ⟨0⟩

def ClassHandle.isNull (h : ClassHandle) : Bool := h.address == 0

def NativePointer.null : NativePointer := ⟨0⟩

def NativePointer.isNull (p : NativePointer) : Bool := p.address == 0

def StringHandle.null : StringHandle := ⟨0⟩

def StringHandle.isNull (h : StringHandle) : Bool := h.address == 0

def EnvHandle.text (h : EnvHandle) : String :=
  "EnvHandle(" ++ Text.address h.address.toNat ++ ")"

def NativePointer.text (p : NativePointer) : String :=
  "NativePointer(" ++ Text.address p.address.toNat ++ ")"

end NativeBridge
