/-
  NativeBridge/Text/Blank.lean
  ============================
  **Blank text.**  A symbol, a type name or a default value that holds nothing
  but white space names nothing, and every check that refuses an empty name
  refuses such a name too.  White space is the Unicode property White_Space, so
  a no-break space is blank and a zero-width space is not.

  `trim_eq_nil_iff` says that the two ways to ask agree: nothing is left after
  trimming exactly when every character is white.
-/
namespace NativeBridge.Text

/-! ### The property -/

/-- First and last code point of each range of White_Space. -/
def whiteRanges : List (Nat × Nat) :=
  [(0x9, 0xD), (0x20, 0x20), (0x85, 0x85), (0xA0, 0xA0), (0x1680, 0x1680),
   (0x2000, 0x200A), (0x2028, 0x2029), (0x202F, 0x202F), (0x205F, 0x205F),
   (0x3000, 0x3000)]

def inRanges (ranges : List (Nat × Nat)) (n : Nat) : Bool :=
  ranges.any fun r => decide (r.1 ≤ n) && decide (n ≤ r.2)

/-- White space in the sense of Unicode, not of ASCII. -/
def isWhite (c : Char) : Bool := inRanges whiteRanges c.toNat

/-- The ASCII class is part of the Unicode one. -/
theorem isWhite_of_isWhitespace {c : Char} (h : c.isWhitespace = true) : isWhite c = true := by
  simp only [Char.isWhitespace, Bool.or_eq_true, decide_eq_true_eq] at h
  rcases h with (((rfl | rfl) | rfl) | rfl) <;> rfl

/-! ### Trimming -/

def trimEnd (cs : List Char) : List Char := (cs.reverse.dropWhile isWhite).reverse

def trim (cs : List Char) : List Char := trimEnd (cs.dropWhile isWhite)

/-- Whether a text consists of white space only; the empty text does. -/
def isBlank (s : String) : Bool := s.toList.all isWhite

theorem dropWhile_isWhite_eq_nil_iff {cs : List Char} :
    cs.dropWhile isWhite = [] ↔ cs.all isWhite = true := by
  induction cs with
  | nil => simp
  | cons c cs ih =>
    by_cases h : isWhite c = true
    · simp [h, ih]
    · simp [h]

theorem trimEnd_eq_nil_iff {cs : List Char} : trimEnd cs = [] ↔ cs.all isWhite = true := by
  rw [trimEnd, List.reverse_eq_nil_iff, dropWhile_isWhite_eq_nil_iff, List.all_reverse]

/-- What trimming empties is what is white throughout. -/
theorem trim_eq_nil_iff {cs : List Char} : trim cs = [] ↔ cs.all isWhite = true := by
  rw [trim, trimEnd_eq_nil_iff]
  induction cs with
  | nil => simp
  | cons c cs ih =>
    by_cases h : isWhite c = true
    · simp [h, ih]
    · simp [h]

end NativeBridge.Text
