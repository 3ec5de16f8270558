/-
  NativeBridge/Toml/Quotation.lean
  ================================
  **Quoted text in a document.**  There are four kinds: between double quotes, where
  a backslash starts an escape; between single quotes, where everything stands for
  itself; and both in triple quotes, where the text may run over several lines.  Each
  reader starts behind the opening quotes and returns the text and what follows the
  closing ones.
-/
import NativeBridge.Toml.Number

namespace NativeBridge.Toml

/-! ### Characters -/

/-- What may stand in a comment or a quotation: no control character but the tab. -/
def isPlain (c : Char) : Bool :=
  c == '\t' || (decide (0x20 ≤ c.toNat) && decide (c.toNat ≠ 0x7F))

/-- The line end at the start of a text, if there is one, is cut off. -/
def newline? : List Char → Option (List Char)
  | '\n' :: cs => some cs
  | '\r' :: '\n' :: cs => some cs
  | _ => none

def isSpace (c : Char) : Bool := c == ' ' || c == '\t'

def skipSpace (cs : List Char) : List Char := cs.dropWhile isSpace

/-! ### Escapes -/

/-- The character whose code point is written in hexadecimal; surrogates and numbers
    past the last code point name none. -/
def codePoint (ds : List Char) : Option Char :=
  if ds.all (isDigitOf 16) then
    let n := numeral 16 ds
    if n.isValidChar then some (Char.ofNat n) else none
  else none

/-- The character that a letter after a backslash stands for. -/
def shortEscape : Char → Option Char
  | 'b' => some '\x08'
  | 't' => some '\t'
  | 'n' => some '\n'
  | 'f' => some '\x0c'
  | 'r' => some '\r'
  | '"' => some '"'
  | '\\' => some '\\'
  | _ => none

/-- Whether what follows a backslash is the end of the line, blanks aside. -/
def endsLine (cs : List Char) : Bool := (newline? (skipSpace cs)).isSome

/-! ### The four kinds -/

/-- Puts a character in front of a text that was read. -/
def push (c : Char) (r : Option (List Char × List Char)) : Option (List Char × List Char) :=
  r.map fun (s, rest) => (c :: s, rest)

def basicText : List Char → Option (List Char × List Char)
  | [] => none
  | '"' :: cs => some ([], cs)
  | '\\' :: 'u' :: a :: b :: c :: d :: cs =>
    match codePoint [a, b, c, d] with
    | some x => push x (basicText cs)
    | none => none
  | '\\' :: 'U' :: a :: b :: c :: d :: e :: f :: g :: h :: cs =>
    match codePoint [a, b, c, d, e, f, g, h] with
    | some x => push x (basicText cs)
    | none => none
  | '\\' :: c :: cs =>
    match shortEscape c with
    | some x => push x (basicText cs)
    | none => none
  | c :: cs => if isPlain c && c != '\\' then push c (basicText cs) else none

def literalText : List Char → Option (List Char × List Char)
  | [] => none
  | '\'' :: cs => some ([], cs)
  | c :: cs => if isPlain c then push c (literalText cs) else none

/-- Text in triple double quotes.  One or two quotes may stand before the closing
    ones.  While `folding`, blanks and line ends after a backslash are skipped. -/
def basicBlock : (folding : Bool) → List Char → Option (List Char × List Char)
  | _, [] => none
  | true, ' ' :: cs => basicBlock true cs
  | true, '\t' :: cs => basicBlock true cs
  | true, '\n' :: cs => basicBlock true cs
  | true, '\r' :: '\n' :: cs => basicBlock true cs
  | _, '"' :: '"' :: '"' :: '"' :: '"' :: cs => some (['"', '"'], cs)
  | _, '"' :: '"' :: '"' :: '"' :: cs => some (['"'], cs)
  | _, '"' :: '"' :: '"' :: cs => some ([], cs)
  | _, '\\' :: 'u' :: a :: b :: c :: d :: cs =>
    match codePoint [a, b, c, d] with
    | some x => push x (basicBlock false cs)
    | none => none
  | _, '\\' :: 'U' :: a :: b :: c :: d :: e :: f :: g :: h :: cs =>
    match codePoint [a, b, c, d, e, f, g, h] with
    | some x => push x (basicBlock false cs)
    | none => none
  | _, '\\' :: c :: cs =>
    if endsLine (c :: cs) then basicBlock true (c :: cs)
    else
      match shortEscape c with
      | some x => push x (basicBlock false cs)
      | none => none
  | _, '\r' :: '\n' :: cs => push '\n' (basicBlock false cs)
  | _, '\n' :: cs => push '\n' (basicBlock false cs)
  | _, c :: cs => if isPlain c && c != '\\' then push c (basicBlock false cs) else none

def literalBlock : List Char → Option (List Char × List Char)
  | [] => none
  | '\'' :: '\'' :: '\'' :: '\'' :: '\'' :: cs => some (['\'', '\''], cs)
  | '\'' :: '\'' :: '\'' :: '\'' :: cs => some (['\''], cs)
  | '\'' :: '\'' :: '\'' :: cs => some ([], cs)
  | '\r' :: '\n' :: cs => push '\n' (literalBlock cs)
  | '\n' :: cs => push '\n' (literalBlock cs)
  | c :: cs => if isPlain c then push c (literalBlock cs) else none

/-- A line end right behind the opening quotes of a block is no part of its text. -/
def openBlock (cs : List Char) : List Char := (newline? cs).getD cs

def quotation : List Char → Option (List Char × List Char)
  | '"' :: '"' :: '"' :: cs => basicBlock false (openBlock cs)
  | '"' :: cs => basicText cs
  | '\'' :: '\'' :: '\'' :: cs => literalBlock (openBlock cs)
  | '\'' :: cs => literalText cs
  | _ => none

end NativeBridge.Toml
