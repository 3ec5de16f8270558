/-
  NativeBridge/Types/Descriptor.lean
  ==================================
  **Types at the boundary.**  A descriptor says which native type represents a type,
  which rules convert between the two, and which value stands for a failure.  A type
  that is its own representation and has no rule is a primitive of the boundary.
-/
import NativeBridge.Fault
import NativeBridge.Text.Blank

namespace NativeBridge

structure TypeDescriptor where
  name : String
  native : String
  default : String
  /-- Path of the rule that makes a value of this type from a native one. -/
  fromNative : Option String
  /-- Path of the rule that makes a native value from one of this type. -/
  toNative : Option String
  deriving DecidableEq, Repr

namespace TypeDescriptor

def primitive (name default : String) : TypeDescriptor := ⟨name, name, default, none, none⟩

def hasNoRules (d : TypeDescriptor) : Bool := d.fromNative.isNone && d.toNative.isNone

/-- Whether the type represents itself, so that values may go through unconverted. -/
def representsItself (d : TypeDescriptor) : Bool := d.name == d.native

def isPrimitive (d : TypeDescriptor) : Bool := d.representsItself && d.hasNoRules

def convertsArguments (d : TypeDescriptor) : Bool := d.fromNative.isSome

def convertsResults (d : TypeDescriptor) : Bool := d.toNative.isSome

/-- A rule that is given but blank. -/
def blankRule (rule : Option String) : Bool := rule.any Text.isBlank

/-- The first flaw of a descriptor, if it has one. -/
def flaw (d : TypeDescriptor) : Option DescriptorFlaw :=
  if Text.isBlank d.name then some .blankName
  else if Text.isBlank d.native then some .blankNative
  else if Text.isBlank d.default then some .blankDefault
  else if d.hasNoRules && !d.representsItself then some (.noRules d.native)
  else if blankRule d.fromNative || blankRule d.toNative then some .blankRule
  else none

def checked (d : TypeDescriptor) : Except BridgeError Unit :=
  match d.flaw with
  | some flaw => .error (.invalidDescriptor d.name flaw)
  | none => .ok ()

end TypeDescriptor

end NativeBridge
