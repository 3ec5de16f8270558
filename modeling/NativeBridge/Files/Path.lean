/-
  NativeBridge/Files/Path.lean
  ============================
  **Paths.**  A path is a text.  Read as a route it is a list of steps, from the root
  or from the working directory, where repeated slashes and single dots lead nowhere.
  How the text ends still matters: after a slash only a directory will do, and a path
  that ends in a dot, or in two, names no entry that could be replaced.

  The directory part of a path is cut from the text, so that messages can show paths
  as they were given.
-/
namespace NativeBridge

/-! ### Routes -/

inductive Step
  | down (name : String)
  | up
  deriving DecidableEq, Repr

inductive Ending
  | plain
  | slash
  | dot
  deriving DecidableEq, Repr

structure Route where
  absolute : Bool
  steps : List Step
  ending : Ending
  deriving DecidableEq, Repr

/-- The parts of a text between slashes; a text without a slash is one part. -/
def splitSlashes : List Char → List (List Char)
  | [] => [[]]
  | '/' :: cs => [] :: splitSlashes cs
  | c :: cs =>
    match splitSlashes cs with
    | [] => [[c]]
    | part :: parts => (c :: part) :: parts

/-- The step of one part, if it leads anywhere. -/
def Step.ofPart (part : List Char) : Option Step :=
  if part = [] ∨ part = ['.'] then none
  else if part = ['.', '.'] then some .up
  else some (.down (String.ofList part))

/-- The last part that is not empty decides, but an empty one behind it is a slash. -/
def Ending.ofParts (parts : List (List Char)) : Ending :=
  match parts.reverse.dropWhile (· == []) with
  | ['.'] :: _ => .dot
  | _ :: _ => if parts.getLast? = some [] then .slash else .plain
  | [] => .plain

def Route.ofPath (path : String) : Route :=
  let cs := path.toList
  let parts := splitSlashes cs
  ⟨cs.head? == some '/', parts.filterMap Step.ofPart, .ofParts parts⟩

/-! ### Directory part and joining -/

/-- Cuts slashes and dots from the end of a reversed path, but neither the root nor a
    dot that the path starts with. -/
def trimReversed : List Char → List Char
  | '/' :: c :: cs => trimReversed (c :: cs)
  | '.' :: '/' :: cs => trimReversed ('/' :: cs)
  | cs => cs

/-- The directory part of a path; empty if there is none. -/
def directoryPart (path : String) : String :=
  let rest := trimReversed path.toList.reverse
  match rest with
  | ['/'] => ""
  | rest => String.ofList (trimReversed (rest.dropWhile (· != '/'))).reverse

/-- The path of the directory that holds the entry of a path. -/
def holderPart (path : String) : String :=
  if directoryPart path = "" then "." else directoryPart path

/-- A path below a base; an absolute path stands for itself. -/
def joinPath (base path : String) : String :=
  if path.toList.head? = some '/' ∨ base = "" then path
  else if base.toList.getLast? = some '/' then base ++ path
  else base ++ "/" ++ path

/-- The name of a staged file: six characters make it fresh. -/
def stagedName (fresh : String) : String := ".tmp" ++ fresh

end NativeBridge
