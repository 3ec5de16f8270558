/-
  NativeBridge/Toml/Reader.lean
  =============================
  **Reading values.**  Lists may run over several lines, hold comments and end in a
  comma; inline tables stay on one line and do not.  Values nest, so the reader
  carries fuel: every step either goes into a bracket or past a comma, so the number
  of characters bounds the number of steps.
-/
import NativeBridge.Toml.Assembly
import NativeBridge.Toml.Key
import NativeBridge.Toml.Moment

namespace NativeBridge.Toml

/-! ### What stands between values -/

/-- Skips blanks, line ends and comments; `inComment` while inside one. -/
def skipGap : (inComment : Bool) → List Char → List Char
  | _, [] => []
  | _, '\n' :: cs => skipGap false cs
  | _, '\r' :: '\n' :: cs => skipGap false cs
  | true, c :: cs => if isPlain c then skipGap true cs else c :: cs
  | false, '#' :: cs => skipGap true cs
  | false, c :: cs => if isSpace c then skipGap false cs else c :: cs

/-- What follows the rest of a line that holds nothing but a comment. -/
def endLine (cs : List Char) : Option (List Char) :=
  let cs := match skipSpace cs with
    | '#' :: cs => cs.dropWhile isPlain
    | cs => cs
  match cs with
  | [] => some []
  | cs => newline? cs

/-! ### Values -/

def word : List Char → Option (Value × List Char)
  | 't' :: 'r' :: 'u' :: 'e' :: cs => some (.truth true, cs)
  | 'f' :: 'a' :: 'l' :: 's' :: 'e' :: cs => some (.truth false, cs)
  | cs => specialReal false cs

/-- A date, a time or a number; each is tried in turn. -/
def numberOrMoment (cs : List Char) : Option (Value × List Char) :=
  (moment cs).orElse fun _ => (realNumber cs).orElse fun _ => wholeNumber cs

def scalar (cs : List Char) : Option (Value × List Char) :=
  match cs with
  | [] => none
  | c :: _ =>
    if c = '"' ∨ c = '\'' then (quotation cs).map fun (s, rest) => (.text (String.ofList s), rest)
    else if c = '+' ∨ c = '-' ∨ isDigitOf 10 c then numberOrMoment cs
    else word cs

mutual

/-- A value inside `depth` brackets. -/
def readValue : (fuel depth : Nat) → List Char → Option (Value × List Char)
  | 0, _, _ => none
  | fuel + 1, depth, '[' :: cs =>
    if depth + 1 < depthLimit then
      (readItems fuel (depth + 1) (skipGap false cs)).map fun (vs, rest) => (.list vs, rest)
    else none
  | fuel + 1, depth, '\x7b' :: cs =>
    if depth + 1 < depthLimit then
      match skipSpace cs with
      | '\x7d' :: rest => some (.table [], rest)
      | cs => do
        let (pairs, rest) ← readPairs fuel (depth + 1) cs
        let entries ← addValues pairs []
        return (.table (finishEntries entries), rest)
    else none
  | _ + 1, _, cs => scalar cs

/-- The items of a list up to its closing bracket. -/
def readItems : (fuel depth : Nat) → List Char → Option (List Value × List Char)
  | 0, _, _ => none
  | _ + 1, _, ']' :: cs => some ([], cs)
  | fuel + 1, depth, cs => do
    let (v, cs) ← readValue fuel depth cs
    match skipGap false cs with
    | ',' :: cs =>
      let (vs, rest) ← readItems fuel depth (skipGap false cs)
      return (v :: vs, rest)
    | ']' :: rest => return ([v], rest)
    | _ => none

/-- The pairs of an inline table, at least one, up to its closing brace. -/
def readPairs : (fuel depth : Nat) → List Char → Option (List (List String × Value) × List Char)
  | 0, _, _ => none
  | fuel + 1, depth, cs => do
    let (path, cs) ← keyPath cs
    let cs ← expect '=' cs
    let (v, cs) ← readValue fuel depth (skipSpace cs)
    match skipSpace cs with
    | ',' :: cs =>
      let (pairs, rest) ← readPairs fuel depth cs
      return ((path, v) :: pairs, rest)
    | '\x7d' :: rest => return ([(path, v)], rest)
    | _ => none

end

/-- A value at the start of a text of at most `size` characters. -/
def value (size : Nat) (cs : List Char) : Option (Value × List Char) :=
  readValue (2 * size + 2) 0 cs

end NativeBridge.Toml
