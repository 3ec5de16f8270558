/-
  NativeBridge/Files/Access.lean
  ==============================
  **Access to a tree by paths.**  A route is walked step by step; every place it goes
  on from must be a directory, so `missing/..` leads nowhere although the text could be
  shortened.  Directories are made on the way, each as it is found to be missing; what
  was made stays made if a later one fails.  A file is replaced in one move, which
  fails as a whole or happens as a whole.

  Limits are those of the texts: a path is too long by its own length, not by that of
  the route it stands for, and a staged file is known by its path from the root.
-/
import NativeBridge.Files.Fault
import NativeBridge.Files.Path
import NativeBridge.Files.Tree
import NativeBridge.Text.Utf8

namespace NativeBridge

namespace FileTree

/-! ### Walking -/

def nameLimit : Nat := 255

def pathLimit : Nat := 4095

/-- The entry of a name in the directory at a location. -/
def child (t : FileTree) (l : Location) (name : String) :
    Except FileFault (Location × Option Entry) :=
  match t.entry l with
  | some .directory =>
    if nameLimit < (Text.bytes name).length then .error .nameTooLong
    else .ok (l ++ [name], t.entry (l ++ [name]))
  | some (.file _) => .error .notDirectory
  | none => .error .notFound

/-- The location that steps lead to, from a location that exists. -/
def walk (t : FileTree) : Location → List Step → Except FileFault Location
  | l, [] => .ok l
  | l, .down name :: steps =>
    match t.child l name with
    | .error f => .error f
    | .ok (_, none) => .error .notFound
    | .ok (k, some _) => t.walk k steps
  | l, .up :: steps =>
    match t.entry l with
    | some .directory => t.walk l.dropLast steps
    | some (.file _) => .error .notDirectory
    | none => .error .notFound

def start (t : FileTree) (r : Route) : Location := if r.absolute then [] else t.working

def walkToDirectory (t : FileTree) (r : Route) (steps : List Step) : Except FileFault Location :=
  match t.walk (t.start r) steps with
  | .error f => .error f
  | .ok l =>
    match t.entry l with
    | some .directory => .ok l
    | some (.file _) => .error .notDirectory
    | none => .error .notFound

def reach (t : FileTree) (r : Route) : Except FileFault (Location × Entry) :=
  match t.walk (t.start r) r.steps with
  | .error f => .error f
  | .ok l =>
    match t.entry l with
    | some .directory => .ok (l, .directory)
    | some (.file bytes) =>
      if r.ending = .plain then .ok (l, .file bytes) else .error .notDirectory
    | none => .error .notFound

/-- What no path may be: empty, too long, or with a NUL in it. -/
def pathFault (path : String) : Option FileFault :=
  if path.toList.contains '\x00' then some .invalidPath
  else if path = "" then some .notFound
  else if pathLimit < (Text.bytes path).length then some .nameTooLong
  else none

/-! ### Reading -/

def find (t : FileTree) (path : String) : Except FileFault (Location × Entry) :=
  match pathFault path with
  | some f => .error f
  | none => t.reach (.ofPath path)

def read (t : FileTree) (path : String) : Except FileFault (List UInt8) :=
  match t.find path with
  | .error f => .error f
  | .ok (_, .directory) => .error .isDirectory
  | .ok (_, .file bytes) => .ok bytes

def isFile (t : FileTree) (path : String) : Bool :=
  match t.find path with
  | .ok (_, .file _) => true
  | _ => false

/-! ### Directories -/

/-- Makes what is missing on the way that steps lead, from a directory.  `missed` says
    whether something was missing before: from there on each step asks for a directory
    of its own, and a file where one is to be is a name that is taken.  Up to there it
    is no directory to go on from, unless it is the end of the way. -/
def makeDirectories (t : FileTree) (missed : Bool) (l : Location) :
    List Step → FileTree × Except FileFault Unit
  | [] => (t, .ok ())
  | .up :: steps => t.makeDirectories missed l.dropLast steps
  | .down name :: steps =>
    match t.child l name with
    | .error f => (t, .error f)
    | .ok (k, some .directory) => t.makeDirectories missed k steps
    | .ok (_, some (.file _)) =>
      (t, .error (if missed || steps.isEmpty then .alreadyExists else .notDirectory))
    | .ok (k, none) => (t.put k .directory).makeDirectories true k steps

/-- Makes the directory at the end of a route with all that are missing above it.  A
    dot at the end names no directory that could be made: what is before it must be
    there, or come to be on the way to it. -/
def makeRoute (t : FileTree) (r : Route) : FileTree × Except FileFault Unit :=
  if r.ending = .dot then
    match t.walkToDirectory r r.steps with
    | .ok _ => (t, .ok ())
    | .error .notFound =>
      match t.makeDirectories false (t.start r) r.steps.dropLast with
      | (t', .error f) => (t', .error f)
      | (t', .ok ()) => (t', (t'.walkToDirectory r r.steps).map fun _ => ())
    | .error f => (t, .error f)
  else t.makeDirectories false (t.start r) r.steps

/-- Makes the directory at a path with all that are missing above it.  The paths of
    those above are shorter, so what no path may be is seen before any is made. -/
def ensureDirectory (t : FileTree) (path : String) : FileTree × Except FileFault Unit :=
  if path = "" then (t, .ok ())
  else
    match pathFault path with
    | some f => (t, .error f)
    | none => t.makeRoute (.ofPath path)

/-! ### Replacing a file -/

/-- What keeps a file from being staged in a directory that exists.  Fresh names are
    equally long, so one stands for all. -/
def stagingFault (t : FileTree) (directory : String) : Option FileFault :=
  pathFault (joinPath (joinPath t.workingPath directory) (stagedName "000000"))

/-- What no path may be that a file is moved to. -/
def moveFault (path : String) : Option FileFault :=
  match pathFault path with
  | some .invalidPath => some .invalidArgument
  | f => f

/-- Where a finished file would be moved to: a name that is free or a file's, in a
    directory that exists. -/
def replaceable (t : FileTree) (path : String) : Except FileFault Location :=
  match moveFault path with
  | some f => .error f
  | none =>
    let r := Route.ofPath path
    if r.ending = .dot then
      match t.walkToDirectory r r.steps with
      | .error f => .error f
      | .ok _ => .error .busy
    else
      match t.walkToDirectory r r.steps.dropLast with
      | .error f => .error f
      | .ok l =>
        match r.steps.getLast? with
        | some (.down name) =>
          match t.child l name with
          | .error f => .error f
          | .ok (k, e) =>
            if r.ending = .slash then .error .notDirectory
            else if e = some .directory then .error .isDirectory
            else .ok k
        | _ => .error .busy

/-- Writes a file in one move: the directory of the destination is made, the bytes are
    staged in it under a fresh name, and the staged file takes the place of the
    destination.  If the move fails the staged file is gone again. -/
def replaceFile (t : FileTree) (path : String) (bytes : List UInt8) :
    FileTree × Except FileFault Unit :=
  match t.ensureDirectory (holderPart path) with
  | (t', .error f) => (t', .error f)
  | (t', .ok ()) =>
    match t'.stagingFault (holderPart path) with
    | some f => (t', .error f)
    | none =>
      match t'.replaceable path with
      | .error f => (t', .error f)
      | .ok l => (t'.put l (.file bytes), .ok ())

end FileTree

end NativeBridge
