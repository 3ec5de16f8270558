/-
  NativeBridge/Demo/Meaning.lean
  ==============================
  **What the paths of the demo mean.**  The values that the bridges of the demo handle,
  and the meaning of the paths that they call: attachment, the standard conversions of
  texts, and an implementation with its own conversions.  On these values the bridges
  can be called by what generation knows of them: a symbol and a list of arguments.
-/
import NativeBridge.Bridge.Execution
import NativeBridge.Demo.Bridges

namespace NativeBridge.Demo

inductive Value (Db Status : Type)
  | env (h : EnvHandle)
  | caller (h : ClassHandle)
  | pointer (p : NativePointer)
  | string (s : NativeString)
  | number (n : Int32)
  | nothing
  | db (d : Db)
  | status (s : Status)
  | text (s : String)
  deriving DecidableEq, Repr

variable {τ Db Status : Type}

/-- A call of a path; `attached` is what attaching the thread logs.  A path that is
    unknown, or called on values that do not fit, panics. -/
def callPath (api : Implementation τ Db Status) (attached : List Event) (callee : String)
    (args : List (Value Db Status)) : Run τ (Value Db Status) :=
  match callee, args with
  | "init_platform", [] => ⟨[], attached, .done .nothing⟩
  | "convert::string_from_native", [.env env, .string s] => (api.textFromNative env s).map .text
  | "convert::string_to_native", [.env env, .text s] =>
    (api.textToNative env s).map fun bs => .string (some bs)
  | "DbRef::from_native", [.env env, .pointer p] => (api.dbFromNative env p).map .db
  | "DbRef::to_native", [.env env, .db d] => (api.dbToNative env d).map .pointer
  | "StatusCode::to_native", [.env env, .status s] => (api.statusToNative env s).map .number
  | "SqliteApi::openDatabase", [.text path] => (api.openDatabase path).map .db
  | "SqliteApi::prepareStmt", [.db d, .text sql] => (api.prepareStmt d sql).map .status
  | "SqliteApi::close", [.db d] => (api.close d).map fun _ => .nothing
  | "SqliteApi::libVersion", [] => api.libVersion.map .text
  | _, _ => .ofOutcome (.panicked .other)

def constantValue (text : String) : Value Db Status :=
  if text = "NativePointer::NULL" then .pointer .null
  else if text = "NativeString::NULL" then .string none
  else if text = "-1" then .number (-1)
  else .nothing

/-- The environment that a value is; no other value is one. -/
def handleOf : Value Db Status → EnvHandle
  | .env h => h
  | _ => .detached

def meaning (api : Implementation τ Db Status) (attached : List Event) :
    Meaning τ (Value Db Status) :=
  ⟨callPath api attached, constantValue, handleOf⟩

/-! ### Calls from the native side -/

/-- A call of one of the bridges, with its native arguments. -/
inductive Entry
  | openDatabase (p0 : NativeString)
  | prepareStmt (p0 : NativePointer) (p1 : NativeString)
  | close (p0 : NativePointer)
  | libVersion
  deriving DecidableEq, Repr

namespace Entry

def natives : Entry → List (Value Db Status)
  | openDatabase p0 => [.string p0]
  | prepareStmt p0 p1 => [.pointer p0, .string p1]
  | close p0 => [.pointer p0]
  | libVersion => []

/-- The bridge that is called. -/
def run (api : Implementation τ Db Status) (env : EnvHandle) : Entry → Run τ (Value Db Status)
  | openDatabase p0 => (Demo.openDatabase api env p0).map .pointer
  | prepareStmt p0 p1 => (Demo.prepareStmt api env p0 p1).map .number
  | close p0 => (Demo.close api env p0).map fun _ => .nothing
  | libVersion => (Demo.libVersion api env).map .string

end Entry

end NativeBridge.Demo
