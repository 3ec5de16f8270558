/-
  NativeBridge/Demo/Bridges.lean
  ==============================
  **The bridges of a small database binding.**  These are the bridges that the demo
  catalog describes, written out: arguments are converted from left to right, the
  implementation is reached when all conversions succeed, and its result is converted
  last.  Any failure gives the value that the catalog names for the result type.
-/
import NativeBridge.Boundary.Attachment
import NativeBridge.Boundary.Scope

namespace NativeBridge.Demo

/-- A call of one of the standard conversions of texts. -/
inductive TextCall
  | fromNative (env : EnvHandle) (s : NativeString)
  | toNative (env : EnvHandle) (s : String)
  deriving DecidableEq, Repr

/-- What the bridges call: the conversions of the declared types and the
    implementation. -/
structure Implementation (τ Db Status : Type) where
  dbFromNative : EnvHandle → NativePointer → Run τ Db
  dbToNative : EnvHandle → Db → Run τ NativePointer
  statusToNative : EnvHandle → Status → Run τ Int32
  openDatabase : String → Run τ Db
  prepareStmt : Db → String → Run τ Status
  close : Db → Run τ Unit
  libVersion : Run τ String
  /-- What a call of a standard conversion is recorded as; not at all unless this is given. -/
  recorded : TextCall → List τ := fun _ => []

variable {τ Db Status : Type} (api : Implementation τ Db Status) (env : EnvHandle)

namespace Implementation

def textFromNative (s : NativeString) : Run τ String :=
  ⟨api.recorded (.fromNative env s), [],
    (Run.ofConversion (textOfNative s) : Run τ String).outcome⟩

def textToNative (s : String) : Run τ (List UInt8) :=
  ⟨api.recorded (.toNative env s), [],
    (Run.ofConversion (nativeOfText s) : Run τ (List UInt8)).outcome⟩

end Implementation

def openDatabase (p0 : NativeString) : Run τ NativePointer :=
  .contained env .null do
    let localP0 ← api.textFromNative env p0
    let callResult ← api.openDatabase localP0
    api.dbToNative env callResult

def prepareStmt (p0 : NativePointer) (p1 : NativeString) : Run τ Int32 :=
  .contained env (-1) do
    let localP0 ← api.dbFromNative env p0
    let localP1 ← api.textFromNative env p1
    let callResult ← api.prepareStmt localP0 localP1
    api.statusToNative env callResult

def close (p0 : NativePointer) : Run τ Unit :=
  .contained env () do
    let localP0 ← api.dbFromNative env p0
    api.close localP0

/-- The version cannot be refused, so its bridge has no way to pass a failure on. -/
def libVersion : Run τ NativeString :=
  .contained env none do
    let callResult ← api.libVersion.unfailing
    let localCallResult ← api.textToNative env callResult
    return some localCallResult

end NativeBridge.Demo
