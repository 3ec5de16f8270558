/-
  NativeBridge/FunctionPair.lean
  ==============================
  **Signatures and function pairs.**  A pair joins what the native side declares with
  what the implementation offers, under one exported symbol.  Parameters are matched
  by position.
-/
import NativeBridge.Bridge.Basic
import NativeBridge.Fault

namespace NativeBridge

structure Signature where
  name : String
  params : List String
  returns : String
  deriving DecidableEq, Repr

namespace Signature

def arity (s : Signature) : Nat := s.params.length

/-- Parameters with the names that a bridge gives them. -/
def namedParams (s : Signature) : List String :=
  s.params.zipIdx.map fun (type, i) => s!"p{i}: {type}"

def text (s : Signature) : String :=
  s.name ++ "(" ++ ", ".intercalate s.namedParams ++ ") -> " ++ s.returns

end Signature

structure FunctionPair where
  symbol : String
  native : Signature
  actual : Signature
  fallible : Bool
  deriving DecidableEq, Repr

namespace FunctionPair

/-- Both sides must take the same number of arguments. -/
def matchArity (p : FunctionPair) : Except BridgeError Unit :=
  if p.native.arity = p.actual.arity then .ok ()
  else .error (.signatureMismatch p.symbol
    (.arity p.native.arity p.actual.name p.actual.arity))

/-- Native and actual types by position, as far as both sides go. -/
def positions (p : FunctionPair) : List (String × String) :=
  p.native.params.zip p.actual.params

end FunctionPair

end NativeBridge
