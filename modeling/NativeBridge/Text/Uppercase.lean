/-
  NativeBridge/Text/Uppercase.lean
  ================================
  **Upper case in all of Unicode.**  One character may turn into several: the
  sharp s becomes two letters and a ligature comes apart.  The names of converted
  values are built with it, from names whose first character is a small letter, and
  do not meet for that reason: two names that differ only in the case of their first
  character have the same form in upper case.
-/
import NativeBridge.Text.UppercaseTable
namespace NativeBridge.Text

def CaseRun.covers (r : CaseRun) (n : Nat) : Bool :=
  decide (r.first ≤ n) && decide (n ≤ r.last) && (n - r.first) % r.step == 0

/-- The upper-case form of one character; a character without one stays as it is. -/
def upper (c : Char) : List Char :=
  match caseExpansions.find? (·.1 == c.toNat) with
  | some (_, ns) => ns.map Char.ofNat
  | none =>
    match caseRuns.find? (·.covers c.toNat) with
    | some r => [Char.ofNat ((c.toNat : Int) + r.shift).toNat]
    | none => [c]

/-- A text with its first character, and only that, in upper case. -/
def capitalise : List Char → List Char
  | [] => []
  | c :: cs => upper c ++ cs

/-- The first letter of every parameter that has an index. -/
theorem upper_p : upper 'p' = ['P'] := by decide

end NativeBridge.Text
