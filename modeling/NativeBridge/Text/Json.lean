/-
  NativeBridge/Text/Json.lean
  ===========================
  **JSON for readers.**  A value is laid out over several lines, two blanks further in
  at every level; an empty list or object stays on its line.  Only controls, quotes and
  backslashes are escaped.
-/
import NativeBridge.Text.Quoted

namespace NativeBridge.Text

inductive Json
  | number (n : Nat)
  | text (s : String)
  | list (items : List Json)
  | object (fields : List (String × Json))
  deriving Repr

namespace Json

def escapeChar (c : Char) : String :=
  match c with
  | '"' => "\\\""
  | '\\' => "\\\\"
  | '\x08' => "\\b"
  | '\x0c' => "\\f"
  | '\n' => "\\n"
  | '\r' => "\\r"
  | '\t' => "\\t"
  | c =>
    if c.toNat < 0x20 then
      "\\u" ++ String.ofList (List.replicate (4 - (hexadecimal c.toNat).length) '0') ++
        hexadecimal c.toNat
    else String.singleton c

def quote (s : String) : String := "\"" ++ String.join (s.toList.map escapeChar) ++ "\""

def indent (level : Nat) : String := String.ofList (List.replicate (2 * level) ' ')

/-- Lines between brackets, one level further in than the brackets. -/
def block (opening closing : String) (level : Nat) (lines : List String) : String :=
  if lines.isEmpty then opening ++ closing
  else
    opening ++ "\n" ++ ",\n".intercalate (lines.map (indent (level + 1) ++ ·)) ++ "\n" ++
      indent level ++ closing

mutual

/-- The layout of a value whose first line is already indented. -/
def layout (level : Nat) : Json → String
  | number n => toString n
  | text s => quote s
  | list items => block "[" "]" level (layoutItems (level + 1) items)
  | object fields => block "\x7b" "\x7d" level (layoutFields (level + 1) fields)

def layoutItems (level : Nat) : List Json → List String
  | [] => []
  | j :: js => layout level j :: layoutItems level js

def layoutFields (level : Nat) : List (String × Json) → List String
  | [] => []
  | (name, j) :: fields => (quote name ++ ": " ++ layout level j) :: layoutFields level fields

end

end Json

end NativeBridge.Text
