/-
  NativeBridge/Bridge/Identifier.lean
  ===================================
  **Names in generated bridges.**  The identifier of a bridge comes from its exported
  symbol: what cannot stand in an identifier becomes an underscore, and an underscore
  goes in front of a leading digit.  A converted value is bound to a local name made
  from the name of the value.
-/
import NativeBridge.Fault
import NativeBridge.Text.Blank
import NativeBridge.Text.Uppercase

namespace NativeBridge

/-! ### Identifiers -/

def isAsciiDigit (c : Char) : Bool := decide ('0' ≤ c ∧ c ≤ '9')

def isIdentifierChar (c : Char) : Bool :=
  decide ('a' ≤ c ∧ c ≤ 'z') || decide ('A' ≤ c ∧ c ≤ 'Z') || isAsciiDigit c || c == '_'

def identifierChar (c : Char) : Char := if isIdentifierChar c then c else '_'

def guardDigit : List Char → List Char
  | [] => []
  | c :: cs => if isAsciiDigit c then '_' :: c :: cs else c :: cs

def identifierChars (symbol : List Char) : List Char := guardDigit (symbol.map identifierChar)

/-- The identifier of the bridge for an exported symbol; a blank symbol has none. -/
def identifierFor (symbol : String) : Except BridgeError String :=
  if Text.isBlank symbol then .error (.signatureMismatch symbol .blankSymbol)
  else .ok (String.ofList (identifierChars symbol.toList))

/-! ### Names of converted values -/

def convertedMark : String := "local"

/-- The name for a converted value: the mark and the capitalised name of the value. -/
def convertedName (name : String) : String :=
  convertedMark ++ String.ofList (Text.capitalise name.toList)

/-- Whether a name is one that a converted value was bound to. -/
def isConvertedName (name : String) : Bool := convertedMark.toList.isPrefixOf name.toList

end NativeBridge
