/-
  NativeBridge/Text/Quoted.lean
  =============================
  **A text as a message shows it.**  Messages about a wrong value quote it between
  double quotes.  What would break the quotation is escaped: the quote and the
  backslash, the usual controls by their letters, and every character without a
  glyph by its code point.
-/
import NativeBridge.Text.Blank
import NativeBridge.Text.HiddenTable
namespace NativeBridge.Text

/-- Lower-case hexadecimal digits, at least one. -/
def hexadecimal (n : Nat) : String := String.ofList (Nat.toDigits 16 n)

/-- An address as messages and log entries write it. -/
def address (n : Nat) : String := "0x" ++ hexadecimal n

/-- Whether a character is shown by its code point instead of by itself. -/
def isHidden (c : Char) : Bool :=
  decide (c.toNat < 0x20) || decide (c.toNat = 0x7F) || inRanges hiddenRanges c.toNat

def quotedChar (c : Char) : String :=
  match c with
  | '\x00' => "\\0"
  | '\t' => "\\t"
  | '\r' => "\\r"
  | '\n' => "\\n"
  | '"' => "\\\""
  | '\\' => "\\\\"
  | c => if isHidden c then "\\u\x7b" ++ hexadecimal c.toNat ++ "\x7d" else String.singleton c

def quoted (s : String) : String :=
  "\"" ++ String.join (s.toList.map quotedChar) ++ "\""

end NativeBridge.Text
