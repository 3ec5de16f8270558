/-
  NativeBridge/Command/Logging.lean
  =================================
  **The log of a run.**  How much is shown depends on how often verbosity was asked
  for: warnings always, then what was done, then how.  A level named by the environment
  overrides that.  A line holds the level, the message and the values of an event.
-/
import NativeBridge.Event
import NativeBridge.Text.Quoted

namespace NativeBridge

def Level.weight : Level → Nat
  | trace => 0
  | debug => 1
  | info => 2
  | warn => 3

def Event.values : Event → List (String × String)
  | generated symbol implementation params =>
    [("symbol", symbol), ("implementation", implementation), ("params", toString params)]
  | wrote path functions bytes =>
    [("path", path), ("functions", toString functions), ("bytes", toString bytes)]
  | resolved catalog destination check =>
    [("catalog", catalog), ("destination", destination), ("check", toString check)]
  | contained env error => [("env", Text.address env.toNat), ("error", error)]
  | attached => []

def Event.line (e : Event) : String :=
  " ".intercalate (e.level.name :: e.message :: e.values.map fun (name, v) => name ++ "=" ++ v)

namespace Command

/-- The least weight that is shown. -/
def threshold : (verbosity : Nat) → Nat
  | 0 => Level.warn.weight
  | 1 => Level.info.weight
  | _ => Level.debug.weight

/-- The least weight that a name asks for, if it is the name of a level or `off`; there
    are no events of the level of errors. -/
def thresholdNamed (name : String) : Option Nat :=
  match name.toLower with
  | "trace" => some Level.trace.weight
  | "debug" => some Level.debug.weight
  | "info" => some Level.info.weight
  | "warn" => some Level.warn.weight
  | "error" => some (Level.warn.weight + 1)
  | "off" => some (Level.warn.weight + 1)
  | _ => none

def logLines (least : Nat) (log : List Event) : List String :=
  (log.filter fun e => decide (least ≤ e.level.weight)).map (·.line)

end Command

end NativeBridge
