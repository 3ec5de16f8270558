/-
  NativeBridge/Proofs/Identifiers.lean
  ====================================
  **Identifiers are a projection of symbols.**  `identifierChars_eq` says what becomes of
  a symbol: its characters one by one, behind an underscore if the first is a digit.  The
  result has the shape of an identifier (`shaped_identifierChars`), and what has this shape
  stays as it is (`identifierChars_of_shaped`); so deriving an identifier twice is deriving
  it once, and symbols of this shape keep apart.

  For a batch this means that identifiers can only collide where a symbol needs changing.
-/
import NativeBridge.Proofs.FirstFault

namespace NativeBridge

/-! ### The shape of identifiers -/

/-- The characters of an identifier: ASCII letters and digits, and the underscore. -/
def NameChar (c : Char) : Prop := c.isAlphanum = true ∨ c = '_'

/-- Characters of an identifier, of which the first is no digit. -/
def Shaped (cs : List Char) : Prop :=
  ∃ first rest, cs = first :: rest ∧ (first.isAlpha = true ∨ first = '_') ∧
    ∀ c ∈ rest, NameChar c

section

variable {c : Char} {cs : List Char}

theorem isAsciiDigit_eq (c : Char) : isAsciiDigit c = c.isDigit := by
  rw [isAsciiDigit, Bool.decide_and]
  rfl

theorem isAlpha_iff : c.isAlpha = true ↔ c.isUpper = true ∨ c.isLower = true :=
  Bool.or_eq_true_iff

theorem isAlphanum_iff : c.isAlphanum = true ↔ c.isAlpha = true ∨ c.isDigit = true :=
  Bool.or_eq_true_iff

theorem isDigit_iff : c.isDigit = true ↔ 48 ≤ c.toNat ∧ c.toNat ≤ 57 :=
  Char.isDigit_iff_toNat

theorem isUpper_iff : c.isUpper = true ↔ 65 ≤ c.toNat ∧ c.toNat ≤ 90 := by
  have hrange : c.isUpper = decide ('A' ≤ c ∧ c ≤ 'Z') := rfl
  rw [hrange, decide_eq_true_iff, Char.le_def, Char.le_def, UInt32.le_iff_toNat_le,
    UInt32.le_iff_toNat_le]
  rfl

theorem isLower_iff : c.isLower = true ↔ 97 ≤ c.toNat ∧ c.toNat ≤ 122 := by
  have hrange : c.isLower = (decide ('a' ≤ c) && decide (c ≤ 'z')) := rfl
  rw [hrange, Bool.and_eq_true_iff, decide_eq_true_iff, decide_eq_true_iff, Char.le_def,
    Char.le_def, UInt32.le_iff_toNat_le, UInt32.le_iff_toNat_le]
  rfl

theorem isIdentifierChar_iff : isIdentifierChar c = true ↔ NameChar c := by
  have hcapital : decide ('A' ≤ c ∧ c ≤ 'Z') = c.isUpper := rfl
  have hsmall : decide ('a' ≤ c ∧ c ≤ 'z') = c.isLower := by
    rw [Bool.decide_and]
    rfl
  rw [isIdentifierChar, hsmall, hcapital, isAsciiDigit_eq, NameChar, isAlphanum_iff, isAlpha_iff]
  simp [or_comm (a := c.isLower = true)]

theorem nameChar_of_isAlpha (h : c.isAlpha = true) : NameChar c :=
  .inl (isAlphanum_iff.2 (.inl h))

theorem nameChar_of_isDigit (h : c.isDigit = true) : NameChar c :=
  .inl (isAlphanum_iff.2 (.inr h))

/-- Letters and the underscore are no digits. -/
theorem not_isDigit_of_starts (h : c.isAlpha = true ∨ c = '_') : c.isDigit = false := by
  rcases h with h | rfl
  · rw [← Bool.not_eq_true, isDigit_iff]
    rw [isAlpha_iff, isUpper_iff, isLower_iff] at h
    omega
  · rfl

/-- A character of an identifier can be the first one, unless it is a digit. -/
theorem NameChar.starts (h : NameChar c) (hdigit : c.isDigit = false) :
    c.isAlpha = true ∨ c = '_' := by
  simpa [NameChar, isAlphanum_iff, hdigit] using h

/-- Identifiers hold no white space: all their characters lie between the second and the
    third range of it. -/
theorem NameChar.not_white (h : NameChar c) : Text.isWhite c = false := by
  have hrange : 48 ≤ c.toNat ∧ c.toNat ≤ 122 := by
    rcases h with h | rfl
    · rw [isAlphanum_iff, isAlpha_iff, isUpper_iff, isLower_iff, isDigit_iff] at h
      omega
    · decide
  simp only [Text.isWhite, Text.inRanges, Text.whiteRanges, List.any_cons, List.any_nil,
    Bool.or_false, Bool.or_eq_false_iff, Bool.and_eq_false_iff, decide_eq_false_iff_not]
  omega

theorem Shaped.nameChar (h : Shaped cs) : ∀ c ∈ cs, NameChar c := by
  obtain ⟨first, rest, rfl, hfirst, hrest⟩ := h
  intro c hc
  rcases List.mem_cons.1 hc with rfl | hc
  · rcases hfirst with halpha | rfl
    · exact nameChar_of_isAlpha halpha
    · exact .inr rfl
  · exact hrest c hc

theorem Shaped.not_blank {name : String} (h : Shaped name.toList) : ¬ Blank name := by
  intro hblank
  obtain ⟨first, rest, hname, -, -⟩ := id h
  have hmem : first ∈ name.toList := by
    rw [hname]
    exact List.mem_cons_self
  have hwhite := (h.nameChar first hmem).not_white
  rw [hblank first hmem] at hwhite
  cases hwhite

/-! ### What becomes of a symbol -/

theorem identifierChar_of_nameChar (h : NameChar c) : identifierChar c = c := by
  rw [identifierChar, if_pos (isIdentifierChar_iff.2 h)]

theorem identifierChar_of_not (h : ¬ NameChar c) : identifierChar c = '_' := by
  rw [identifierChar, if_neg (mt isIdentifierChar_iff.1 h)]

theorem nameChar_identifierChar (c : Char) : NameChar (identifierChar c) := by
  by_cases h : NameChar c
  · rw [identifierChar_of_nameChar h]
    exact h
  · rw [identifierChar_of_not h]
    exact .inr rfl

theorem isDigit_identifierChar (c : Char) : (identifierChar c).isDigit = c.isDigit := by
  by_cases h : NameChar c
  · rw [identifierChar_of_nameChar h]
  · rw [identifierChar_of_not h]
    cases hdigit : c.isDigit with
    | false => rfl
    | true => exact absurd (nameChar_of_isDigit hdigit) h

/-- How many places the characters of a symbol move: one if a digit is in front. -/
def shift (cs : List Char) : Nat := if cs.head?.any Char.isDigit then 1 else 0

theorem identifierChars_eq (cs : List Char) :
    identifierChars cs = List.replicate (shift cs) '_' ++ cs.map identifierChar := by
  cases cs with
  | nil => rfl
  | cons c cs =>
    rw [identifierChars, List.map_cons, guardDigit, isAsciiDigit_eq, isDigit_identifierChar,
      shift, List.head?_cons, Option.any_some]
    cases c.isDigit <;> rfl

theorem shaped_identifierChars (h : cs ≠ []) : Shaped (identifierChars cs) := by
  have hmap (cs : List Char) : ∀ c ∈ cs.map identifierChar, NameChar c := by
    intro c hc
    obtain ⟨d, -, rfl⟩ := List.mem_map.1 hc
    exact nameChar_identifierChar d
  rw [identifierChars_eq]
  cases cs with
  | nil => exact absurd rfl h
  | cons c cs =>
    cases hdigit : c.isDigit with
    | true =>
      have hshift : shift (c :: cs) = 1 := by simp [shift, hdigit]
      rw [hshift]
      exact ⟨'_', (c :: cs).map identifierChar, rfl, .inr rfl, hmap (c :: cs)⟩
    | false =>
      have hshift : shift (c :: cs) = 0 := by simp [shift, hdigit]
      rw [hshift]
      refine ⟨identifierChar c, cs.map identifierChar, rfl, ?_, hmap cs⟩
      apply (nameChar_identifierChar c).starts
      rw [isDigit_identifierChar, hdigit]

theorem Shaped.shift_eq (h : Shaped cs) : shift cs = 0 := by
  obtain ⟨first, rest, rfl, hfirst, -⟩ := h
  simp [shift, not_isDigit_of_starts hfirst]

/-- What has the shape of an identifier stays as it is. -/
theorem identifierChars_of_shaped (h : Shaped cs) : identifierChars cs = cs := by
  have hmap : cs.map identifierChar = cs.map id :=
    List.map_congr_left fun c hc => identifierChar_of_nameChar (h.nameChar c hc)
  rw [identifierChars_eq, h.shift_eq, hmap, List.map_id]
  rfl

/-! ### Identifiers -/

variable {symbol ident : String}

theorem identifierFor_ok_iff :
    identifierFor symbol = .ok ident ↔
      ¬ Blank symbol ∧ ident.toList = identifierChars symbol.toList := by
  rw [identifierFor, ← isBlank_iff]
  by_cases hblank : Text.isBlank symbol = true
  · simp [hblank]
  · simp [hblank, ← String.toList_inj, eq_comm]

theorem toList_ne_nil_of_not_blank (h : ¬ Blank symbol) : symbol.toList ≠ [] := by
  intro hnil
  apply h
  rw [Blank, hnil]
  exact List.forall_mem_nil _

theorem shaped_of_identifierFor (h : identifierFor symbol = .ok ident) : Shaped ident.toList := by
  obtain ⟨hblank, hident⟩ := identifierFor_ok_iff.1 h
  rw [hident]
  exact shaped_identifierChars (toList_ne_nil_of_not_blank hblank)

/-- A symbol that has the shape of an identifier is one. -/
theorem identifierFor_of_shaped (h : Shaped symbol.toList) : identifierFor symbol = .ok symbol :=
  identifierFor_ok_iff.2 ⟨h.not_blank, (identifierChars_of_shaped h).symm⟩

theorem shaped_iff_identifierFor : Shaped symbol.toList ↔ identifierFor symbol = .ok symbol :=
  ⟨identifierFor_of_shaped, shaped_of_identifierFor⟩

/-- **The identifier of a symbol** keeps the characters that identifiers may hold, each in
    its place or, behind an underscore, one place further; all others become underscores. -/
structure Projects (symbol ident : String) : Prop where
  shaped : Shaped ident.toList
  length : ident.toList.length = shift symbol.toList + symbol.toList.length
  guarded : shift symbol.toList = 1 → ident.toList[0]? = some '_'
  kept : ∀ (i : Nat) (c : Char), symbol.toList[i]? = some c → NameChar c →
    ident.toList[shift symbol.toList + i]? = some c
  replaced : ∀ (i : Nat) (c : Char), symbol.toList[i]? = some c → ¬ NameChar c →
    ident.toList[shift symbol.toList + i]? = some '_'
  again : identifierFor ident = .ok ident
  itself : ident = symbol ↔ Shaped symbol.toList

theorem projects_of_identifierFor (h : identifierFor symbol = .ok ident) :
    Projects symbol ident := by
  have hshaped := shaped_of_identifierFor h
  obtain ⟨hblank, hident⟩ := identifierFor_ok_iff.1 h
  rw [identifierChars_eq] at hident
  have hplace (i : Nat) (c : Char) (hi : symbol.toList[i]? = some c) :
      ident.toList[shift symbol.toList + i]? = some (identifierChar c) := by
    rw [hident, List.getElem?_append_right (by simp), List.length_replicate,
      Nat.add_sub_cancel_left, List.getElem?_map, hi]
    rfl
  constructor
  case shaped => exact hshaped
  case length => rw [hident, List.length_append, List.length_replicate, List.length_map]
  case guarded =>
    intro hshift
    rw [hident, hshift]
    rfl
  case kept =>
    intro i c hi hc
    rw [hplace i c hi, identifierChar_of_nameChar hc]
  case replaced =>
    intro i c hi hc
    rw [hplace i c hi, identifierChar_of_not hc]
  case again => exact identifierFor_of_shaped hshaped
  case itself =>
    constructor
    · rintro rfl
      exact hshaped
    · intro hsymbol
      exact Except.ok.inj (h.symm.trans (identifierFor_of_shaped hsymbol))

end

/-- **Symbols keep apart.**  Every symbol that is not blank is projected onto its identifier;
    and no batch is refused for its identifiers if its symbols have their shape, since then
    different symbols have different ones. -/
theorem identifiers_areProjected :
    (∀ symbol, ¬ Blank symbol → ∃ ident, identifierFor symbol = .ok ident ∧
      Projects symbol ident) ∧
    ∀ (r : TypeRegistry) (implementation : String) (pairs : List FunctionPair),
      (∀ pair ∈ pairs, Shaped pair.symbol.toList) →
        (∀ function flaw, (bridgesOf r implementation pairs).result ≠
          .error (.malformedBridge function flaw)) ∧
        ∀ p ∈ pairs, ∀ q ∈ pairs, p.symbol ≠ q.symbol →
          identifierFor p.symbol ≠ identifierFor q.symbol := by
  constructor
  · intro symbol hblank
    have hident : identifierFor symbol = .ok (String.ofList (identifierChars symbol.toList)) :=
      identifierFor_ok_iff.2 ⟨hblank, String.toList_ofList⟩
    exact ⟨_, hident, projects_of_identifierFor hident⟩
  · intro r implementation pairs hshaped
    have hapart : ∀ p ∈ pairs, ∀ q ∈ pairs, p.symbol ≠ q.symbol →
        identifierFor p.symbol ≠ identifierFor q.symbol := by
      intro p hp q hq hne hsame
      rw [identifierFor_of_shaped (hshaped p hp), identifierFor_of_shaped (hshaped q hq)] at hsame
      exact hne (Except.ok.inj hsame)
    refine ⟨?_, hapart⟩
    intro function flaw h
    obtain ⟨earlier, pair, rest, rfl, hviolated⟩ := exists_firstViolated_of_error h
    obtain ⟨-, hident, -, p, hp, hne, hsame⟩ := collision_of_firstViolated hviolated
    have hpair : pair ∈ earlier ++ pair :: rest :=
      List.mem_append_right _ List.mem_cons_self
    exact hapart p (List.mem_append_left _ hp) pair hpair hne (hsame.trans hident.symm)

/-- An overload of `close`, behind it. -/
def Demo.overloads : List FunctionPair :=
  [closePair, { closePair with symbol := closePair.symbol ++ "__J" }]

/-- A symbol that needs an underscore in front and two inside, and overloads that need
    none. -/
theorem overloads_keepApart :
    (¬ Blank "1é.x" ∧ ∃ ident, identifierFor "1é.x" = .ok ident ∧ Projects "1é.x" ident) ∧
      (∀ pair ∈ Demo.overloads, Shaped pair.symbol.toList) ∧
      (∀ function flaw, (bridgesOf Demo.registry "SqliteApi" Demo.overloads).result ≠
        .error (.malformedBridge function flaw)) ∧
      ∀ p ∈ Demo.overloads, ∀ q ∈ Demo.overloads, p.symbol ≠ q.symbol →
        identifierFor p.symbol ≠ identifierFor q.symbol := by
  have hblank : ¬ Blank "1é.x" := by
    rw [← isBlank_iff]
    decide
  have hshaped : ∀ pair ∈ Demo.overloads, Shaped pair.symbol.toList := by
    simp only [shaped_iff_identifierFor]
    decide
  have hapart := identifiers_areProjected.2 Demo.registry "SqliteApi" Demo.overloads hshaped
  exact ⟨⟨hblank, identifiers_areProjected.1 "1é.x" hblank⟩, hshaped, hapart⟩

end NativeBridge
