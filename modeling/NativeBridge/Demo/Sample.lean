/-
  NativeBridge/Demo/Sample.lean
  =============================
  **A sample implementation of the demo.**  Database handles are pointers and must not
  be null, status codes are numbers of which one has no native form, and every call is
  recorded before it acts.  What the four functions do is up to the user.
-/
import NativeBridge.Demo.Bridges

namespace NativeBridge.Demo

inductive SampleCall
  | dbFromNative (p : NativePointer)
  | dbToNative (p : NativePointer)
  | statusToNative (status : Int32)
  | openDatabase (path : String)
  | prepareStmt (db : NativePointer) (sql : String)
  | close (db : NativePointer)
  | libVersion
  deriving DecidableEq, Repr

def brokenStatus : Int32 := 999

structure Behaviour where
  openDatabase : Run SampleCall NativePointer
  prepareStmt : Run SampleCall Int32
  close : Run SampleCall Unit
  libVersion : Run SampleCall String

def sampleImplementation (b : Behaviour) : Implementation SampleCall NativePointer Int32 where
  dbFromNative _ p := do
    Run.call (.dbFromNative p)
    if p.isNull then .ofOutcome (.failed ["null database handle"]) else return p
  dbToNative _ p := do
    Run.call (.dbToNative p)
    return p
  statusToNative _ status := do
    Run.call (.statusToNative status)
    if status = brokenStatus then
      .ofOutcome (.failed ["status " ++ toString status.toInt ++ " has no native form"])
    else return status
  openDatabase path := do
    Run.call (.openDatabase path)
    b.openDatabase
  prepareStmt db sql := do
    Run.call (.prepareStmt db sql)
    b.prepareStmt
  close db := do
    Run.call (.close db)
    b.close
  libVersion := do
    Run.call .libVersion
    b.libVersion

end NativeBridge.Demo
