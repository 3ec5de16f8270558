/-
  NativeBridge/Toml/Key.lean
  ==========================
  **Keys.**  A key is bare or quoted on one line, and a dotted key is a path of
  keys.  A path of eighty keys or more is refused, as is a value inside eighty or
  more brackets: a document that deep is taken for an attack, not for a catalog.
-/
import NativeBridge.Toml.Quotation

namespace NativeBridge.Toml

def depthLimit : Nat := 80

def isBareKeyChar (c : Char) : Bool :=
  decide ('a' ≤ c ∧ c ≤ 'z') || decide ('A' ≤ c ∧ c ≤ 'Z') || decide ('0' ≤ c ∧ c ≤ '9') ||
    c == '-' || c == '_'

def simpleKey : List Char → Option (String × List Char)
  | '"' :: cs => (basicText cs).map fun (s, rest) => (String.ofList s, rest)
  | '\'' :: cs => (literalText cs).map fun (s, rest) => (String.ofList s, rest)
  | cs =>
    match cs.takeWhile isBareKeyChar with
    | [] => none
    | k => some (String.ofList k, cs.dropWhile isBareKeyChar)

/-- Keys separated by dots, blanks allowed around each; at most `fuel` of them. -/
def keyPathWithin : (fuel : Nat) → List Char → Option (List String × List Char)
  | 0, _ => none
  | fuel + 1, cs => do
    let (k, cs) ← simpleKey (skipSpace cs)
    match skipSpace cs with
    | '.' :: cs =>
      let (ks, rest) ← keyPathWithin fuel cs
      return (k :: ks, rest)
    | rest => return ([k], rest)

/-- A dotted key below the depth limit. -/
def keyPath (cs : List Char) : Option (List String × List Char) :=
  keyPathWithin (depthLimit - 1) cs

end NativeBridge.Toml
