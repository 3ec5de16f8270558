/-
  NativeBridge/Toml/Moment.lean
  =============================
  **Dates and times.**  A date may be followed by a time and a time by an offset
  from universal time; a time may also stand alone.  Months, days of a month, hours
  and minutes must exist, and a minute may have a leap second.
-/
import NativeBridge.Toml.Number

namespace NativeBridge.Toml

def twoDigits : List Char → Option (Nat × List Char)
  | a :: b :: cs =>
    if isDigitOf 10 a && isDigitOf 10 b then some (numeral 10 [a, b], cs) else none
  | _ => none

def fourDigits : List Char → Option (Nat × List Char)
  | a :: b :: c :: d :: cs =>
    if [a, b, c, d].all (isDigitOf 10) then some (numeral 10 [a, b, c, d], cs) else none
  | _ => none

/-- The given character, and what follows it. -/
def expect (c : Char) : List Char → Option (List Char)
  | d :: cs => if d = c then some cs else none
  | [] => none

def isLeapYear (year : Nat) : Bool :=
  year % 4 == 0 && (year % 100 != 0 || year % 400 == 0)

def daysInMonth (year month : Nat) : Nat :=
  if month = 2 then (if isLeapYear year then 29 else 28)
  else if month = 4 ∨ month = 6 ∨ month = 9 ∨ month = 11 then 30
  else 31

def afterDate (cs : List Char) : Option (List Char) := do
  let (year, cs) ← fourDigits cs
  let cs ← expect '-' cs
  let (month, cs) ← twoDigits cs
  let cs ← expect '-' cs
  let (day, cs) ← twoDigits cs
  if 1 ≤ month ∧ month ≤ 12 ∧ 1 ≤ day ∧ day ≤ daysInMonth year month then some cs else none

def afterMinute (cs : List Char) : Option (List Char) := do
  let (hour, cs) ← twoDigits cs
  let cs ← expect ':' cs
  let (minute, cs) ← twoDigits cs
  if hour ≤ 23 ∧ minute ≤ 59 then some cs else none

/-- What follows a time, with any number of digits after the second. -/
def afterTime (cs : List Char) : Option (List Char) := do
  let cs ← afterMinute cs
  let cs ← expect ':' cs
  let (second, cs) ← twoDigits cs
  if 60 < second then none
  else
    match cs with
    | '.' :: c :: rest =>
      if isDigitOf 10 c then some (rest.dropWhile (isDigitOf 10)) else some cs
    | _ => some cs

def afterOffset (cs : List Char) : List Char :=
  match cs with
  | c :: rest =>
    if c = 'Z' ∨ c = 'z' then rest
    else if c = '+' ∨ c = '-' then (afterMinute rest).getD cs
    else cs
  | [] => cs

/-- What follows a date with or without a time.  A blank between the two counts only
    if a time follows it. -/
def afterDateTime (cs : List Char) : Option (List Char) := do
  let cs ← afterDate cs
  match cs with
  | c :: rest =>
    if c = 'T' ∨ c = 't' ∨ c = ' ' then
      match afterTime rest with
      | some after => return afterOffset after
      | none => return cs
    else return cs
  | [] => return cs

def moment (cs : List Char) : Option (Value × List Char) :=
  ((afterDateTime cs).orElse fun _ => afterTime cs).map fun rest => (.moment, rest)

end NativeBridge.Toml
