/-
  NativeBridge/Bridge/Basic.lean
  ==============================
  **Bridges.**  A bridge is a function of the native boundary.  Its prologue runs
  unprotected; everything that can fail runs inside one containment scope, which
  turns a failure into a default value that the native side understands.
-/
namespace NativeBridge

/-- The type of functions that return nothing. -/
def unitType : String := "()"

/-- A call of a path; `propagates` leaves the scope when the call fails. -/
structure Call where
  callee : String
  args : List String
  propagates : Bool
  deriving DecidableEq, Repr

def Call.text (c : Call) : String :=
  c.callee ++ "(" ++ ", ".intercalate c.args ++ ")" ++ (if c.propagates then "?" else "")

/-- The use of a conversion rule: it gets the environment and the value, and may fail. -/
def Call.rule (path env value : String) : Call := ⟨path, [env, value], true⟩

inductive Statement
  | run (call : Call)
  | bind (name : String) (call : Call)
  deriving DecidableEq, Repr

def Statement.call : Statement → Call
  | run c => c
  | bind _ c => c

structure Parameter where
  name : String
  type : String
  deriving DecidableEq, Repr

/-- The part of a bridge in which failures are contained: the environment it reports
    to, the value returned on failure, and the value returned otherwise. -/
structure Scope where
  env : String
  default : String
  statements : List Statement
  value : String
  deriving DecidableEq, Repr

structure Bridge where
  ident : String
  exportName : String
  params : List Parameter
  returns : String
  prologue : List Statement
  scope : Scope
  deriving DecidableEq, Repr

def Bridge.returnsNothing (b : Bridge) : Bool := b.returns == unitType

end NativeBridge
