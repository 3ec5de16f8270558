/-
  NativeBridge/Main.lean
  ======================
  **The program.**  Reads the catalog, compares or replaces the destination, prints what
  the answer says and ends with its code.  All that is decided is decided by the library;
  a fault of the file system that no message knows ends the program as it is.
-/
import NativeBridge.Command.Execution
import NativeBridge.Command.Logging

namespace NativeBridge.Command

/-- The fault of an error number of the system, which some accesses report negated. -/
def numberedFault (code : UInt32) : Option FileFault :=
  if code = 20 ∨ code = -20 then some .notDirectory
  else if code = 21 ∨ code = -21 then some .isDirectory
  else if code = 22 ∨ code = -22 then some .invalidArgument
  else if code = 36 ∨ code = -36 then some .nameTooLong
  else none

/-- The cause behind a failed access, if messages know it. -/
def knownFault : IO.Error → Option FileFault
  | .noFileOrDirectory .. => some .notFound
  | .alreadyExists .. => some .alreadyExists
  | .resourceBusy .. => some .busy
  | .inappropriateType _ code _ => numberedFault code
  | .invalidArgument _ code _ => numberedFault code
  | _ => none

/-- Runs an access, unless its path rules it out, and keeps the fault that messages
    know. -/
def attempt {α : Type} (fault : Option FileFault) (access : IO α) :
    IO (Except FileFault α) := do
  match fault with
  | some f => return .error f
  | none =>
    match ← access.toBaseIO with
    | .ok a => return .ok a
    | .error e =>
      match knownFault e with
      | some f => return .error f
      | none => throw e

def readBytes (path : String) : IO (Except FileFault (List UInt8)) :=
  attempt (FileTree.pathFault path) do return (← IO.FS.readBinFile path).toList

/-- What is found at the path of a catalog; what cannot be opened is no file. -/
def readingAt (path : String) : IO Reading := do
  match ← readBytes path with
  | .error _ => return .noFile
  | .ok bytes =>
    match Text.Utf8.decode bytes with
    | .ok cs => return .text (String.ofList cs)
    | .error _ => return .fault .notText

def fileHolds (path text : String) : IO (Except FileFault Bool) := do
  match ← readBytes path with
  | .ok bytes => return .ok (bytes == Text.bytes text)
  | .error .notFound => return .ok false
  | .error f => return .error f

/-- Whether a directory stands at a path: exactly then the dot in it is taken. -/
def isDirectoryAt (path : String) : IO Bool := do
  match ← (IO.FS.createDir (path ++ "/.")).toBaseIO with
  | .error (.alreadyExists ..) => return true
  | _ => return false

/-- Makes the directory at a path with all that are missing above it. -/
partial def ensureDirectory (path : String) : IO (Except FileFault Unit) := do
  let make := attempt (FileTree.pathFault path) (IO.FS.createDir path)
  let orStanding : Except FileFault Unit → IO (Except FileFault Unit)
    | .error .alreadyExists =>
      return if ← isDirectoryAt path then .ok () else .error .alreadyExists
    | r => return r
  if path = "" then return .ok ()
  match ← make with
  | .error .notFound =>
    match ← ensureDirectory (directoryPart path) with
    | .ok () => orStanding (← make)
    | .error f => return .error f
  | r => orStanding r

/-- A name that no other run uses. -/
def freshName : IO String := do
  let bytes ← IO.getRandomBytes 6
  return stagedName (String.ofList (bytes.toList.map fun b => Char.ofNat (97 + b.toNat % 26)))

/-- Stages a text beside its destination and moves it there. -/
def replaceFile (path text : String) : IO (Except FileFault Unit) := do
  let directory := holderPart path
  match ← ensureDirectory directory with
  | .error f => return .error f
  | .ok () =>
    let staged := joinPath (joinPath (toString (← IO.currentDir)) directory) (← freshName)
    match ← attempt (FileTree.pathFault staged) (IO.FS.writeBinFile staged text.toUTF8) with
    | .error f => return .error f
    | .ok () =>
      match ← attempt (FileTree.moveFault path) (IO.FS.rename staged path) with
      | .ok () => return .ok ()
      | .error f =>
        IO.FS.removeFile staged
        return .error f

def Request.perform : Request → IO Response
  | .check o => return o.answer (← readingAt o.catalog)
  | .generate o => do
    match o.plan (← readingAt o.catalog) with
    | ⟨log, .error e⟩ => return .failure log e
    | ⟨log, .ok p⟩ =>
      if o.check then return o.compared log p (← fileHolds p.destination p.unit.text)
      else return p.written log (← replaceFile p.destination p.unit.text)

def Response.print (verbosity : Nat) (r : Response) : IO UInt32 := do
  let named := ((← IO.getEnv "RUST_LOG").bind thresholdNamed)
  for line in logLines (named.getD (threshold verbosity)) r.log do
    IO.eprintln line
  IO.print r.stdout
  IO.eprint r.stderr
  return UInt32.ofNat r.code

end NativeBridge.Command

open NativeBridge.Command in
def main (args : List String) : IO UInt32 := do
  match Invocation.ofArguments args with
  | .run verbosity request => (← request.perform).print verbosity
  | .version => (Response.success [] version).print 0
  | .help topic => (Response.success [] (usage topic)).print 0
  | .misuse => Response.misuse.print 0
