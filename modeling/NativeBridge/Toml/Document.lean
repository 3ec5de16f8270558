/-
  NativeBridge/Toml/Document.lean
  ===============================
  **Documents.**  A document is a list of lines, each a header, a key with its value,
  or nothing; the lines between two headers form a section.  `parse` reads the lines
  and adds the sections one after the other to an empty table.
-/
import NativeBridge.Toml.Reader

namespace NativeBridge.Toml

/-! ### Lines -/

inductive Line
  | table (path : List String)
  | item (path : List String)
  | pair (path : List String) (v : Value)
  deriving Repr

/-- The rest of a header of one table, behind its bracket. -/
def tableHeader (cs : List Char) : Option (Line × List Char) := do
  let (path, cs) ← keyPath cs
  let cs ← expect ']' cs
  return (.table path, cs)

/-- The rest of a header of a list of tables, behind its brackets. -/
def itemHeader (cs : List Char) : Option (Line × List Char) := do
  let (path, cs) ← keyPath cs
  let cs ← expect ']' cs
  let cs ← expect ']' cs
  return (.item path, cs)

def pairLine (size : Nat) (cs : List Char) : Option (Line × List Char) := do
  let (path, cs) ← keyPath cs
  let cs ← expect '=' cs
  let (v, cs) ← value size (skipSpace cs)
  return (.pair path v, cs)

/-- A line that is neither empty nor a comment, at the start of a text of at most `size`
    characters. -/
def line (size : Nat) : List Char → Option (Line × List Char)
  | '[' :: '[' :: cs => itemHeader cs
  | '[' :: cs => tableHeader cs
  | cs => pairLine size cs

/-- The lines of a text of at most `fuel` characters.  Each line takes one of them or
    more, so that the fuel bounds the rest of the text all along. -/
def linesWithin : (fuel : Nat) → List Char → Option (List Line)
  | 0, cs => if skipSpace cs = [] then some [] else none
  | fuel + 1, cs =>
    match skipSpace cs with
    | [] => some []
    | c :: cs =>
      if c = '#' ∨ c = '\n' ∨ c = '\r' then (endLine (c :: cs)).bind (linesWithin fuel)
      else do
        let (l, cs) ← line (fuel + 1) (c :: cs)
        let cs ← endLine cs
        let ls ← linesWithin fuel cs
        return l :: ls

/-- The lines of a document, which may start with a byte order mark. -/
def lines : List Char → Option (List Line)
  | '\ufeff' :: cs => linesWithin cs.length cs
  | cs => linesWithin cs.length cs

/-! ### Sections -/

/-- The pairs up to the next header, and the lines from it on. -/
def leadingPairs : List Line → List (List String × Value) × List Line
  | .pair path v :: ls =>
    let (pairs, rest) := leadingPairs ls
    ((path, v) :: pairs, rest)
  | ls => ([], ls)

structure Section where
  isItem : Bool
  path : List String
  pairs : List (List String × Value)
  deriving Repr

/-- Cuts the lines from the first header on into sections; pairs in front of it do
    not belong to one. -/
def sections : List Line → List Section
  | [] => []
  | .table path :: ls => ⟨false, path, (leadingPairs ls).1⟩ :: sections ls
  | .item path :: ls => ⟨true, path, (leadingPairs ls).1⟩ :: sections ls
  | .pair _ _ :: ls => sections ls

def Section.addTo (entries : Entries) (s : Section) : Option Entries :=
  if s.isItem then addItem s.path s.pairs entries else addTable s.path s.pairs entries

/-- The table of a document, or nothing if the text is not a document. -/
def parse (text : String) : Option Table := do
  let ls ← lines text.toList
  let top ← addValues (leadingPairs ls).1 []
  let entries ← (sections ls).foldlM Section.addTo top
  return finishEntries entries

end NativeBridge.Toml
