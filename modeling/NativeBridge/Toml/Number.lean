/-
  NativeBridge/Toml/Number.lean
  =============================
  **Numbers.**  A whole number has 64 bits and a sign, in base ten or, without a
  sign, in base 16, 8 or 2.  A real number has a fraction, an exponent or both.
  Single underscores may stand between two digits.  No reader here skips anything
  in front of a number; each returns the characters that follow it.
-/
import NativeBridge.Toml.Value

namespace NativeBridge.Toml

open NativeBridge.Text (Double)

/-! ### Digits -/

/-- The value of a digit in any base up to 16. -/
def digitValue (c : Char) : Option Nat :=
  if '0' ≤ c ∧ c ≤ '9' then some (c.toNat - '0'.toNat)
  else if 'a' ≤ c ∧ c ≤ 'f' then some (c.toNat - 'a'.toNat + 10)
  else if 'A' ≤ c ∧ c ≤ 'F' then some (c.toNat - 'A'.toNat + 10)
  else none

def isDigitOf (base : Nat) (c : Char) : Bool :=
  match digitValue c with
  | some d => decide (d < base)
  | none => false

/-- The value of a list of digits; what is no digit counts as zero. -/
def numeral (base : Nat) (ds : List Char) : Nat :=
  ds.foldl (fun n c => n * base + (digitValue c).getD 0) 0

/-- The digits after a first one: an underscore counts if a digit follows it. -/
def moreDigits (base : Nat) : List Char → List Char × List Char
  | '_' :: c :: cs =>
    if isDigitOf base c then
      let (ds, rest) := moreDigits base cs
      (c :: ds, rest)
    else ([], '_' :: c :: cs)
  | c :: cs =>
    if isDigitOf base c then
      let (ds, rest) := moreDigits base cs
      (c :: ds, rest)
    else ([], c :: cs)
  | [] => ([], [])

def digits (base : Nat) : List Char → Option (List Char × List Char)
  | [] => none
  | c :: cs =>
    if isDigitOf base c then
      let (ds, rest) := moreDigits base cs
      some (c :: ds, rest)
    else none

/-- Digits in base ten of which the first is zero only if it is the only one. -/
def plainDigits : List Char → Option (List Char × List Char)
  | '0' :: cs => some (['0'], cs)
  | cs => digits 10 cs

/-- An optional sign: whether it is a minus, and what follows. -/
def sign : List Char → Bool × List Char
  | '-' :: cs => (true, cs)
  | '+' :: cs => (false, cs)
  | cs => (false, cs)

/-! ### Whole numbers -/

/-- The first whole number that is too large: two to the power 63. -/
def wholeLimit : Nat := 9223372036854775808

/-- A number that a signed word of 64 bits holds. -/
def wholeOf (negative : Bool) (n : Nat) : Option Value :=
  if negative then
    if n ≤ wholeLimit then some (.whole (-(n : Int))) else none
  else if n < wholeLimit then some (.whole n) else none

/-- A whole number in the base that its first two characters name. -/
def basedWhole (base : Nat) (cs : List Char) : Option (Value × List Char) := do
  let (ds, rest) ← digits base cs
  let v ← wholeOf false (numeral base ds)
  return (v, rest)

def wholeNumber : List Char → Option (Value × List Char)
  | '0' :: 'x' :: cs => basedWhole 16 cs
  | '0' :: 'o' :: cs => basedWhole 8 cs
  | '0' :: 'b' :: cs => basedWhole 2 cs
  | cs => do
    let (negative, cs) := sign cs
    let (ds, rest) ← plainDigits cs
    let v ← wholeOf negative (numeral 10 ds)
    return (v, rest)

/-! ### Real numbers -/

/-- The digits after the decimal point; none if there is no point. -/
def fraction : List Char → Option (List Char × List Char)
  | '.' :: cs => digits 10 cs
  | cs => some ([], cs)

/-- The exponent; zero if there is none. -/
def exponent : List Char → Option (Int × List Char)
  | c :: cs =>
    if c = 'e' ∨ c = 'E' then do
      let (negative, cs) := sign cs
      let (ds, rest) ← digits 10 cs
      let n : Int := numeral 10 ds
      return (if negative then -n else n, rest)
    else some (0, c :: cs)
  | [] => some (0, [])

/-- The words for infinity and for what is no number. -/
def specialReal (negative : Bool) : List Char → Option (Value × List Char)
  | 'i' :: 'n' :: 'f' :: cs => some (.real (.infinite negative), cs)
  | 'n' :: 'a' :: 'n' :: cs => some (.real .nan, cs)
  | _ => none

/-- A number with a fraction or an exponent.  One so large that it would become plus
    infinity is refused. -/
def finiteReal (cs : List Char) : Option (Value × List Char) := do
  let (negative, cs) := sign cs
  let (ds, afterDigits) ← plainDigits cs
  let (fs, afterFraction) ← fraction afterDigits
  let (e, rest) ← exponent afterFraction
  if rest.length = afterDigits.length then none
  else
    let x := Double.nearest negative (numeral 10 (ds ++ fs)) (e - fs.length)
    if x = .infinite false then none else return (.real x, rest)

def realNumber (cs : List Char) : Option (Value × List Char) :=
  let (negative, after) := sign cs
  (finiteReal cs).orElse fun _ => specialReal negative after

end NativeBridge.Toml
