/-
  NativeBridge/Event.lean
  =======================
  **What is logged.**  An event carries the values it is about; level and wording
  depend on its kind alone.
-/
namespace NativeBridge

inductive Level
  | trace
  | debug
  | info
  | warn
  deriving DecidableEq, Repr

def Level.name : Level → String
  | trace => "TRACE"
  | debug => "DEBUG"
  | info => "INFO"
  | warn => "WARN"

inductive Event
  /-- A bridge was built for an exported symbol. -/
  | generated (symbol implementation : String) (params : Nat)
  | wrote (path : String) (functions bytes : Nat)
  /-- The command line has decided where its output goes. -/
  | resolved (catalog destination : String) (check : Bool)
  /-- A failure was stopped at the boundary and a default value returned instead. -/
  | contained (env : UInt64) (error : String)
  /-- A thread was attached, which happens once. -/
  | attached
  deriving DecidableEq, Repr

def Event.level : Event → Level
  | generated .. => .debug
  | wrote .. => .info
  | resolved .. => .info
  | contained .. => .warn
  | attached => .trace

def Event.message : Event → String
  | generated .. => "generated bridge"
  | wrote .. => "wrote bridge unit"
  | resolved .. => "resolved output"
  | contained .. => "contained failure at native boundary"
  | attached => "attached native thread"

end NativeBridge
