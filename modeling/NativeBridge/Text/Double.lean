/-
  NativeBridge/Text/Double.lean
  =============================
  **Decimal text and double precision numbers.**  A double is a mantissa and a
  power of two.  `nearest` turns a decimal number into the nearest double, a tie
  going to the even mantissa; `shortest` finds the fewest decimal digits that
  `nearest` reads back as the same double.  Both work in exact natural numbers.

  Numbers are written without an exponent and always with a decimal point, so that
  one can tell them from whole numbers.
-/
namespace NativeBridge.Text

/-- A double precision number; a finite one is `mantissa * 2 ^ exponent`. -/
inductive Double
  | nan
  | infinite (negative : Bool)
  | finite (negative : Bool) (mantissa : Nat) (exponent : Int)
  deriving DecidableEq, Repr

structure Fraction where
  num : Nat
  den : Nat
  deriving DecidableEq, Repr

/-- `digits * base ^ power` as a fraction. -/
def scaled (digits base : Nat) (power : Int) : Fraction :=
  if 0 ≤ power then ⟨digits * Nat.pow base power.toNat, 1⟩
  else ⟨digits, Nat.pow base (-power).toNat⟩

def decimalDigits (n : Nat) : List Char := Nat.toDigits 10 n

namespace Double

/-! ### From decimal to binary -/

/-- The quotient rounded to the nearest whole number, a tie to the even one. -/
def roundEven (num den : Nat) : Nat :=
  let q := num / den
  let r := num % den
  if 2 * r < den then q
  else if den < 2 * r then q + 1
  else if q % 2 = 0 then q else q + 1

def mantissaLimit : Nat := 9007199254740992

def mantissaStart : Nat := 4503599627370496

def minExponent : Int := -1074

/-- The exponent at which the fraction has a mantissa of 53 bits, or the smallest
    exponent if that is larger. -/
def targetExponent (f : Fraction) : Int :=
  let guess : Int := (Nat.log2 f.num : Int) - (Nat.log2 f.den : Int) - 53
  let g := scaled f.num 2 (-guess)
  let e := if g.num < mantissaLimit * (g.den * f.den) then guess else guess + 1
  if e < minExponent then minExponent else e

def ofFraction (negative : Bool) (f : Fraction) : Double :=
  let e := targetExponent f
  let g := scaled f.num 2 (-e)
  let m := roundEven g.num (g.den * f.den)
  let (m, e) := if m = mantissaLimit then (mantissaStart, e + 1) else (m, e)
  if 971 < e then .infinite negative else .finite negative m e

/-- The double nearest to `digits * 10 ^ power`.  Far outside the range of doubles
    the answer is known from the number of digits. -/
def nearest (negative : Bool) (digits : Nat) (power : Int) : Double :=
  let places : Int := (decimalDigits digits).length + power
  if digits = 0 then .finite negative 0 0
  else if 310 < places then .infinite negative
  else if places < -330 then .finite negative 0 0
  else ofFraction negative (scaled digits 10 power)

/-! ### From binary to decimal -/

/-- The numbers that `nearest` rounds to `m * 2 ^ e`, in units of `2 ^ (e - 2)`: two
    units to either side, but one unit below a power of two, where the doubles lie
    closer.  The ends belong to it when `m` is even. -/
structure Cell where
  low : Nat
  high : Nat
  closed : Bool
  unit : Fraction
  deriving DecidableEq, Repr

def cell (m : Nat) (e : Int) : Cell :=
  ⟨if m = mantissaStart ∧ minExponent < e then 4 * m - 1 else 4 * m - 2, 4 * m + 2, m % 2 = 0,
    scaled 1 2 (e - 2)⟩

/-- Whether `n * step` lies in the cell. -/
def Cell.holds (c : Cell) (n : Nat) (step : Fraction) : Bool :=
  let x := n * step.num * c.unit.den
  let y := c.unit.num * step.den
  if c.closed then decide (c.low * y ≤ x) && decide (x ≤ c.high * y)
  else decide (c.low * y < x) && decide (x < c.high * y)

/-- The number of `n` for which `n * step` lies in the cell and is nearest to the
    number itself, tried on the two neighbours on the grid. -/
def Cell.pick (c : Cell) (m : Nat) (step : Fraction) : Option Nat :=
  let num := 4 * m * c.unit.num * step.den
  let den := c.unit.den * step.num
  let below := num / den
  let above := below + 1
  match c.holds below step && decide (0 < below), c.holds above step with
  | true, true => if 2 * (num % den) < den then some below else some above
  | true, false => some below
  | false, true => some above
  | false, false => none

/-- The place of the first digit: the least `k` with the number below `10 ^ k`, looked
    for upwards from `from`. -/
def firstPlace (f : Fraction) : Nat → Int → Int
  | 0, k => k
  | fuel + 1, k =>
    let g := scaled 1 10 k
    if f.num * g.den < g.num * f.den then k else firstPlace f fuel (k + 1)

/-- Digits and power of ten of the shortest decimal that reads back.  Rounding up may
    end in a zero, as in `10` for `9.99…`; that zero is not a digit of its own. -/
def shortestFrom (c : Cell) (m : Nat) (place : Int) : Nat → Nat → Nat × Int
  | 0, n => (0, place - n)
  | fuel + 1, n =>
    match c.pick m (scaled 1 10 (place - n)) with
    | some digits =>
      if digits % 10 = 0 then (digits / 10, place - n + 1) else (digits, place - n)
    | none => shortestFrom c m place fuel (n + 1)

def shortest (m : Nat) (e : Int) : Nat × Int :=
  let c := cell m e
  let place := firstPlace ⟨4 * m * c.unit.num, c.unit.den⟩ 700 (-330)
  shortestFrom c m place 17 1

/-- Digits without an exponent and with a decimal point. -/
def positional (digits : Nat) (power : Int) : List Char :=
  let ds := decimalDigits digits
  if 0 ≤ power then ds ++ List.replicate power.toNat '0' ++ ['.', '0']
  else
    let places := (-power).toNat
    if places < ds.length then
      ds.take (ds.length - places) ++ '.' :: ds.drop (ds.length - places)
    else '0' :: '.' :: (List.replicate (places - ds.length) '0' ++ ds)

/-- The number as messages show it.  The sign of a number that is none is not shown. -/
def text : Double → String
  | nan => "NaN"
  | infinite negative => if negative then "-inf" else "inf"
  | finite negative m e =>
    let (digits, power) := if m = 0 then (0, 0) else shortest m e
    String.ofList ((if negative then ['-'] else []) ++ positional digits power)

end Double

end NativeBridge.Text
