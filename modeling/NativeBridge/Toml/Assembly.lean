/-
  NativeBridge/Toml/Assembly.lean
  ===============================
  **Putting tables together.**  Keys, headers and dotted paths all extend the same
  tree, and the rules on what may be extended depend on how a table came to be:
  declared by a header, passed through on the way to a deeper header, or made by a
  dotted key.  A finished value, an inline table included, is never extended.

  * A header may declare a table that was only passed through; the table then moves
    to the place of that header.
  * A dotted key may go through tables that were passed through or dotted, but its
    last table must be a dotted one.
  * In a list of tables every path leads to the last one.
-/
import NativeBridge.Toml.Value

namespace NativeBridge.Toml

inductive Origin
  | declared
  | passed
  | dotted
  deriving DecidableEq, Repr

inductive Node
  | value (v : Value)
  | table (origin : Origin) (entries : List (String × Node))
  | tables (items : List (List (String × Node)))
  deriving Repr

/-- The entries of a table under construction, in document order. -/
abbrev Entries := List (String × Node)

/-! ### Entries -/

/-- Replaces the node of a key that is present. -/
def Entries.replace (key : String) (node : Node) : Entries → Entries
  | [] => []
  | (k, n) :: rest =>
    if k = key then (key, node) :: rest else (k, n) :: Entries.replace key node rest

def Entries.remove (key : String) (entries : Entries) : Entries :=
  entries.filter (·.1 != key)

def changeLast {α : Type} (change : α → Option α) : List α → Option (List α)
  | [] => none
  | [a] => (change a).map fun b => [b]
  | a :: as => (changeLast change as).map (a :: ·)

/-! ### Going down -/

/-- Applies a change to the table at the end of a path.  Tables on the way are made
    with origin `made` when they are missing; `may` says which existing ones may be
    gone through.  The change also learns the origin of the table. -/
def descend (made : Origin) (may : Origin → Bool)
    (change : Origin → Entries → Option Entries) :
    (path : List String) → Origin → Entries → Option Entries
  | [], origin, entries => change origin entries
  | key :: path, _, entries =>
    match entries.lookup key with
    | none => do
      let inner ← descend made may change path made []
      return entries ++ [(key, .table made inner)]
    | some (.table origin inner) =>
      if may origin then do
        let inner ← descend made may change path origin inner
        return entries.replace key (.table origin inner)
      else none
    | some (.tables items) => do
      let items ← changeLast (descend made may change path .declared) items
      return entries.replace key (.tables items)
    | some (.value _) => none

def splitLast : List String → Option (List String × String)
  | [] => none
  | [key] => some ([], key)
  | key :: path => (splitLast path).map fun (front, last) => (key :: front, last)

def addValue (path : List String) (v : Value) (entries : Entries) : Option Entries := do
  let (front, key) ← splitLast path
  let add : Origin → Entries → Option Entries := fun origin inner =>
    if (origin = .dotted) ↔ front = [] then none
    else if (inner.lookup key).isSome then none
    else some (inner ++ [(key, .value v)])
  descend .dotted (· != .declared) add front .declared entries

def addValues : List (List String × Value) → Entries → Option Entries
  | [], entries => some entries
  | (path, v) :: rest, entries => (addValue path v entries).bind (addValues rest)

/-- Adds a section under a header of a single table. -/
def addTable (path : List String) (values : List (List String × Value)) (entries : Entries) :
    Option Entries := do
  let (front, key) ← splitLast path
  let add : Origin → Entries → Option Entries := fun _ inner =>
    match inner.lookup key with
    | none => do
      let own ← addValues values []
      return inner ++ [(key, .table .declared own)]
    | some (.table .passed own) => do
      let own ← addValues values own
      return Entries.remove key inner ++ [(key, .table .declared own)]
    | some _ => none
  descend .passed (fun _ => true) add front .declared entries

/-- Adds a section under a header of a list of tables. -/
def addItem (path : List String) (values : List (List String × Value)) (entries : Entries) :
    Option Entries := do
  let (front, key) ← splitLast path
  let own ← addValues values []
  let add : Origin → Entries → Option Entries := fun _ inner =>
    match inner.lookup key with
    | none => some (inner ++ [(key, .tables [own])])
    | some (.tables items) => some (inner.replace key (.tables (items ++ [own])))
    | some _ => none
  descend .passed (fun _ => true) add front .declared entries

/-! ### The finished value -/

mutual

def Node.finish : Node → Value
  | .value v => v
  | .table _ entries => .table (finishEntries entries)
  | .tables items => .list (finishItems items)

def finishEntries : List (String × Node) → Table
  | [] => []
  | (k, n) :: rest => (k, n.finish) :: finishEntries rest

def finishItems : List (List (String × Node)) → List Value
  | [] => []
  | entries :: rest => .table (finishEntries entries) :: finishItems rest

end

end NativeBridge.Toml
