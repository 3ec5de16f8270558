/-
  NativeBridge/Proofs/Encoding.lean
  =================================
  **The reader of UTF-8 accepts what is written, and nothing else.**  `Spells` lists the
  sequences of one to four bytes that stand for a character, by the ranges of their bytes.
  On the one side these are the sequences that characters are written in (`spells_iff`);
  on the other the reader takes them, byte by byte, for their characters
  (`decodeFrom_of_spells`), and takes nothing else for a character (`exists_spells_of_ok`).
  So a text is read from its own bytes only: `decode_ok_iff`.
-/
import NativeBridge.Text.Utf8
import Mathlib.Tactic.SplitIfs

namespace NativeBridge.Text.Utf8

/-! ### Sequences for one character -/

/-- A byte behind the first one of a character. -/
def IsTail (b : UInt8) : Prop := 0x80 ≤ b ∧ b ≤ 0xBF

/-- The byte sequences that stand for a character, with the character.  The second byte is
    restricted where the first one alone would allow an overlong form, a surrogate or
    something past the last code point. -/
inductive Spells : List UInt8 → Char → Prop
  | one {a : UInt8} (ha : a < 0x80) : Spells [a] (Char.ofNat a.toNat)
  | two {a b : UInt8} (ha : 0xC2 ≤ a) (ha' : a < 0xE0) (hb : IsTail b) :
      Spells [a, b] (Char.ofNat ((a.toNat - 0xC0) * 64 + (b.toNat - 0x80)))
  | three {a b c : UInt8} (ha : 0xE0 ≤ a) (ha' : a < 0xF0) (hb : IsTail b)
      (overlong : a = 0xE0 → 0xA0 ≤ b) (surrogate : a = 0xED → b ≤ 0x9F) (hc : IsTail c) :
      Spells [a, b, c]
        (Char.ofNat (((a.toNat - 0xE0) * 64 + (b.toNat - 0x80)) * 64 + (c.toNat - 0x80)))
  | four {a b c d : UInt8} (ha : 0xF0 ≤ a) (ha' : a < 0xF5) (hb : IsTail b)
      (overlong : a = 0xF0 → 0x90 ≤ b) (last : a = 0xF4 → b ≤ 0x8F) (hc : IsTail c)
      (hd : IsTail d) :
      Spells [a, b, c, d] (Char.ofNat ((((a.toNat - 0xF0) * 64 + (b.toNat - 0x80)) * 64 +
        (c.toNat - 0x80)) * 64 + (d.toNat - 0x80)))

/-! ### What characters are written in -/

theorem isTail_iff {b : UInt8} : IsTail b ↔ 0x80 ≤ b.toNat ∧ b.toNat ≤ 0xBF := by
  rw [IsTail, UInt8.le_iff_toNat_le, UInt8.le_iff_toNat_le]
  rfl

theorem toNat_ofNat_of_valid {n : Nat} (h : n.isValidChar) : (Char.ofNat n).val.toNat = n := by
  rw [Char.ofNat, dif_pos h]
  rfl

/-- The bounds of its bytes keep the number of a spelling in the range of its length. -/
theorem encodeChar_of_spells {bs : List UInt8} {c : Char} (h : Spells bs c) :
    String.utf8EncodeChar c = bs := by
  rcases h with ha | ⟨ha, ha', hb⟩ | ⟨ha, ha', hb, overlong, surrogate, hc⟩ |
    ⟨ha, ha', hb, overlong, last, hc, hd⟩
  all_goals
    simp only [isTail_iff, UInt8.le_iff_toNat_le, UInt8.lt_iff_toNat_lt, ← UInt8.toNat_inj,
      UInt8.reduceToNat] at *
    unfold String.utf8EncodeChar
    rw [toNat_ofNat_of_valid (by unfold Nat.isValidChar; omega)]
  · rw [if_pos (by omega)]
    simp
  · rw [if_neg (by omega), if_pos (by omega)]
    simp only [List.cons.injEq, ← UInt8.toNat_inj, UInt8.toNat_ofNat', and_true]
    omega
  · rw [if_neg (by omega), if_neg (by omega), if_pos (by omega)]
    simp only [List.cons.injEq, ← UInt8.toNat_inj, UInt8.toNat_ofNat', and_true]
    omega
  · rw [if_neg (by omega), if_neg (by omega), if_neg (by omega)]
    simp only [List.cons.injEq, ← UInt8.toNat_inj, UInt8.toNat_ofNat', and_true]
    omega

/-- A spelling that is given by the numbers of its bytes. -/
theorem Spells.of_eq {bs : List UInt8} {c c' : Char} (h : Spells bs c) (hc : c = c') :
    Spells bs c' :=
  hc ▸ h

theorem spells_encodeChar (c : Char) : Spells (String.utf8EncodeChar c) c := by
  have hvalid : c.val.toNat.isValidChar := c.valid
  have hchar : Char.ofNat c.val.toNat = c := Char.ofNat_toNat c
  unfold Nat.isValidChar at hvalid
  unfold String.utf8EncodeChar
  generalize c.val.toNat = n at hvalid hchar
  subst hchar
  dsimp only
  split_ifs with hone htwo hthree
  · refine (Spells.one ?_).of_eq (congrArg Char.ofNat ?_)
    all_goals simp only [UInt8.lt_iff_toNat_lt, UInt8.toNat_ofNat', UInt8.reduceToNat]
    all_goals omega
  · refine (Spells.two ?_ ?_ ?_).of_eq (congrArg Char.ofNat ?_)
    all_goals simp only [isTail_iff, UInt8.le_iff_toNat_le, UInt8.lt_iff_toNat_lt,
      UInt8.toNat_ofNat', UInt8.reduceToNat]
    all_goals omega
  · refine (Spells.three ?_ ?_ ?_ ?_ ?_ ?_).of_eq (congrArg Char.ofNat ?_)
    all_goals simp only [isTail_iff, UInt8.le_iff_toNat_le, UInt8.lt_iff_toNat_lt,
      UInt8.toNat_ofNat', UInt8.reduceToNat, ← UInt8.toNat_inj]
    all_goals omega
  · refine (Spells.four ?_ ?_ ?_ ?_ ?_ ?_ ?_).of_eq (congrArg Char.ofNat ?_)
    all_goals simp only [isTail_iff, UInt8.le_iff_toNat_le, UInt8.lt_iff_toNat_lt,
      UInt8.toNat_ofNat', UInt8.reduceToNat, ← UInt8.toNat_inj]
    all_goals omega

/-- The spellings of a character are what it is written in. -/
theorem spells_iff {bs : List UInt8} {c : Char} :
    Spells bs c ↔ bs = String.utf8EncodeChar c := by
  constructor
  · intro h
    exact (encodeChar_of_spells h).symm
  · rintro rfl
    exact spells_encodeChar c

/-! ### The first byte -/

section

variable {a : UInt8}

theorem start_one (ha : a < 0x80) : start a = .char (Char.ofNat a.toNat) := if_pos ha

theorem start_two (ha : 0xC2 ≤ a) (ha' : a < 0xE0) :
    start a = .pending ⟨1, 0x80, 0xBF, 1, a.toNat - 0xC0⟩ := by
  simp only [UInt8.le_iff_toNat_le, UInt8.lt_iff_toNat_lt, UInt8.reduceToNat] at ha ha'
  unfold start
  simp only [UInt8.lt_iff_toNat_lt, UInt8.reduceToNat]
  rw [if_neg (by omega), if_neg (by omega), if_pos ha']

theorem start_three (ha : 0xE0 ≤ a) (ha' : a < 0xF0) :
    start a = .pending ⟨2, if a = 0xE0 then 0xA0 else 0x80, if a = 0xED then 0x9F else 0xBF, 1,
      a.toNat - 0xE0⟩ := by
  simp only [UInt8.le_iff_toNat_le, UInt8.lt_iff_toNat_lt, UInt8.reduceToNat] at ha ha'
  unfold start
  simp only [UInt8.lt_iff_toNat_lt, UInt8.reduceToNat]
  rw [if_neg (by omega), if_neg (by omega), if_neg (by omega), if_pos ha']

theorem start_four (ha : 0xF0 ≤ a) (ha' : a < 0xF5) :
    start a = .pending ⟨3, if a = 0xF0 then 0x90 else 0x80, if a = 0xF4 then 0x8F else 0xBF, 1,
      a.toNat - 0xF0⟩ := by
  simp only [UInt8.le_iff_toNat_le, UInt8.lt_iff_toNat_lt, UInt8.reduceToNat] at ha ha'
  unfold start
  simp only [UInt8.lt_iff_toNat_lt, UInt8.reduceToNat]
  rw [if_neg (by omega), if_neg (by omega), if_neg (by omega), if_neg (by omega), if_pos ha']

/-- A byte that starts nothing is a continuation, would be overlong, or is too large. -/
theorem start_wrong (h : 0x80 ≤ a ∧ a < 0xC2 ∨ 0xF5 ≤ a) : start a = .wrong := by
  simp only [UInt8.le_iff_toNat_le, UInt8.lt_iff_toNat_lt, UInt8.reduceToNat] at h
  unfold start
  simp only [UInt8.lt_iff_toNat_lt, UInt8.reduceToNat]
  rw [if_neg (by omega)]
  rcases h with h | h
  · rw [if_pos h.2]
  · rw [if_neg (by omega), if_neg (by omega), if_neg (by omega), if_neg (by omega)]

/-- The ranges in which a first byte can be. -/
theorem first_cases (a : UInt8) :
    a < 0x80 ∨ (0xC2 ≤ a ∧ a < 0xE0) ∨ (0xE0 ≤ a ∧ a < 0xF0) ∨ (0xF0 ≤ a ∧ a < 0xF5) ∨
      (0x80 ≤ a ∧ a < 0xC2 ∨ 0xF5 ≤ a) := by
  simp only [UInt8.le_iff_toNat_le, UInt8.lt_iff_toNat_lt, UInt8.reduceToNat]
  omega

end

/-! ### The bytes behind it -/

section

variable {offset : Nat} {p : Pending} {b : UInt8} {rest : List UInt8} {cs : List Char}

theorem map_cons_ok_iff {c : Char} {x : Except Fault (List Char)} :
    x.map (c :: ·) = .ok cs ↔ ∃ cs', x = .ok cs' ∧ cs = c :: cs' := by
  rcases x with e | cs'
  · simp [Except.map]
  · simp [Except.map, eq_comm]

/-- The last byte completes the character. -/
theorem decodeFrom_last_iff (h : p.missing = 1) :
    decodeFrom offset (some p) (b :: rest) = .ok cs ↔
      (p.low ≤ b ∧ b ≤ p.high) ∧ ∃ cs', decodeFrom (offset + p.seen + 1) none rest = .ok cs' ∧
        cs = Char.ofNat (p.value * 64 + (b.toNat - 0x80)) :: cs' := by
  rw [decodeFrom, Pending.next]
  by_cases hb : p.low ≤ b ∧ b ≤ p.high
  · rw [if_pos hb, if_pos (Nat.le_of_eq h), and_iff_right hb]
    exact map_cons_ok_iff
  · simp [hb]

/-- An earlier one leaves one byte less to come. -/
theorem decodeFrom_more_iff {n : Nat} (h : p.missing = n + 2) :
    decodeFrom offset (some p) (b :: rest) = .ok cs ↔
      (p.low ≤ b ∧ b ≤ p.high) ∧
        decodeFrom offset (some ⟨n + 1, 0x80, 0xBF, p.seen + 1,
          p.value * 64 + (b.toNat - 0x80)⟩) rest = .ok cs := by
  rw [decodeFrom, Pending.next]
  by_cases hb : p.low ≤ b ∧ b ≤ p.high
  · rw [if_pos hb, if_neg (by omega), and_iff_right hb, h]
    rfl
  · simp [hb]

section

variable {q : Prop} [Decidable q]

theorem lower_bound_iff {low : UInt8} (hlow : 0x80 ≤ low) :
    (if q then low else 0x80) ≤ b ↔ 0x80 ≤ b ∧ (q → low ≤ b) := by
  split_ifs with hq
  · exact ⟨fun hb => ⟨UInt8.le_trans hlow hb, fun _ => hb⟩, fun hb => hb.2 hq⟩
  · simp [hq]

theorem upper_bound_iff {high : UInt8} (hhigh : high ≤ 0xBF) :
    (b ≤ if q then high else 0xBF) ↔ b ≤ 0xBF ∧ (q → b ≤ high) := by
  split_ifs with hq
  · exact ⟨fun hb => ⟨UInt8.le_trans hb hhigh, fun _ => hb⟩, fun hb => hb.2 hq⟩
  · simp [hq]

end

/-- The bounds of a second byte, which the first byte may have moved. -/
theorem second_bounds_iff {a low high x y : UInt8} (hlow : 0x80 ≤ low) (hhigh : high ≤ 0xBF) :
    ((if a = x then low else 0x80) ≤ b ∧ b ≤ if a = y then high else 0xBF) ↔
      IsTail b ∧ (a = x → low ≤ b) ∧ (a = y → b ≤ high) := by
  rw [lower_bound_iff hlow, upper_bound_iff hhigh]
  exact and_and_and_comm

end

/-! ### Characters, one after the other -/

theorem decodeFrom_of_spells {pre : List UInt8} {c : Char} (h : Spells pre c) {offset : Nat}
    {rest : List UInt8} {cs : List Char}
    (hrest : decodeFrom (offset + pre.length) none rest = .ok cs) :
    decodeFrom offset none (pre ++ rest) = .ok (c :: cs) := by
  rcases h with ha | ⟨ha, ha', hb⟩ | ⟨ha, ha', hb, overlong, surrogate, hc⟩ |
    ⟨ha, ha', hb, overlong, last, hc, hd⟩
  · rw [List.singleton_append, decodeFrom, start_one ha]
    exact map_cons_ok_iff.2 ⟨cs, hrest, rfl⟩
  · rw [List.cons_append, decodeFrom, start_two ha ha']
    exact (decodeFrom_last_iff rfl).2 ⟨hb, cs, hrest, rfl⟩
  · rw [List.cons_append, decodeFrom, start_three ha ha']
    refine (decodeFrom_more_iff rfl).2 ⟨?_, ?_⟩
    · exact (second_bounds_iff (by decide) (by decide)).2 ⟨hb, overlong, surrogate⟩
    · exact (decodeFrom_last_iff rfl).2 ⟨hc, cs, hrest, rfl⟩
  · rw [List.cons_append, decodeFrom, start_four ha ha']
    refine (decodeFrom_more_iff rfl).2 ⟨?_, ?_⟩
    · exact (second_bounds_iff (by decide) (by decide)).2 ⟨hb, overlong, last⟩
    · refine (decodeFrom_more_iff rfl).2 ⟨hc, ?_⟩
      exact (decodeFrom_last_iff rfl).2 ⟨hd, cs, hrest, rfl⟩

/-- What is read starts with a spelling of its first character. -/
theorem exists_spells_of_ok {offset : Nat} {a : UInt8} {bs : List UInt8} {cs : List Char}
    (h : decodeFrom offset none (a :: bs) = .ok cs) :
    ∃ pre c rest cs', Spells pre c ∧ a :: bs = pre ++ rest ∧ cs = c :: cs' ∧
      decodeFrom (offset + pre.length) none rest = .ok cs' := by
  rw [decodeFrom] at h
  rcases first_cases a with ha | ⟨ha, ha'⟩ | ⟨ha, ha'⟩ | ⟨ha, ha'⟩ | ha
  · rw [start_one ha] at h
    obtain ⟨cs', hrest, rfl⟩ := map_cons_ok_iff.1 h
    exact ⟨[a], _, bs, cs', .one ha, rfl, rfl, hrest⟩
  · rw [start_two ha ha'] at h
    rcases bs with _ | ⟨b, rest⟩
    · cases h
    obtain ⟨hb, cs', hrest, rfl⟩ := (decodeFrom_last_iff rfl).1 h
    exact ⟨[a, b], _, rest, cs', .two ha ha' hb, rfl, rfl, hrest⟩
  · rw [start_three ha ha'] at h
    rcases bs with _ | ⟨b, _ | ⟨c, rest⟩⟩
    · cases h
    · obtain ⟨-, h⟩ := (decodeFrom_more_iff rfl).1 h
      cases h
    obtain ⟨hb, h⟩ := (decodeFrom_more_iff rfl).1 h
    obtain ⟨hb, overlong, surrogate⟩ := (second_bounds_iff (by decide) (by decide)).1 hb
    obtain ⟨hc, cs', hrest, rfl⟩ := (decodeFrom_last_iff rfl).1 h
    exact ⟨[a, b, c], _, rest, cs', .three ha ha' hb overlong surrogate hc, rfl, rfl, hrest⟩
  · rw [start_four ha ha'] at h
    rcases bs with _ | ⟨b, _ | ⟨c, _ | ⟨d, rest⟩⟩⟩
    · cases h
    · obtain ⟨-, h⟩ := (decodeFrom_more_iff rfl).1 h
      cases h
    · obtain ⟨-, h⟩ := (decodeFrom_more_iff rfl).1 h
      obtain ⟨-, h⟩ := (decodeFrom_more_iff rfl).1 h
      cases h
    obtain ⟨hb, h⟩ := (decodeFrom_more_iff rfl).1 h
    obtain ⟨hb, overlong, last⟩ := (second_bounds_iff (by decide) (by decide)).1 hb
    obtain ⟨hc, h⟩ := (decodeFrom_more_iff rfl).1 h
    obtain ⟨hd, cs', hrest, rfl⟩ := (decodeFrom_last_iff rfl).1 h
    exact ⟨[a, b, c, d], _, rest, cs', .four ha ha' hb overlong last hc hd, rfl, rfl, hrest⟩
  · rw [start_wrong ha] at h
    cases h

theorem decodeFrom_ok_iff {cs : List Char} :
    ∀ {offset : Nat} {bs : List UInt8},
      decodeFrom offset none bs = .ok cs ↔ bs = encode cs := by
  induction cs with
  | nil =>
    intro offset bs
    rcases bs with _ | ⟨a, bs⟩
    · exact ⟨fun _ => rfl, fun _ => rfl⟩
    · constructor
      · intro h
        obtain ⟨_, _, _, _, -, -, hcs, -⟩ := exists_spells_of_ok h
        cases hcs
      · intro h
        cases h
  | cons c cs ih =>
    intro offset bs
    rw [encode, List.flatMap_cons]
    constructor
    · intro h
      rcases bs with _ | ⟨a, bs⟩
      · cases h
      obtain ⟨pre, c', rest, cs', hspells, hbs, hcs, hrest⟩ := exists_spells_of_ok h
      obtain ⟨rfl, rfl⟩ := List.cons.inj hcs
      rw [hbs, ih.1 hrest, spells_iff.1 hspells]
      rfl
    · rintro rfl
      exact decodeFrom_of_spells (spells_encodeChar c) (ih.2 rfl)

/-- A text is read from the bytes that it is written in, and from no others. -/
theorem decode_ok_iff {bs : List UInt8} {cs : List Char} :
    decode bs = .ok cs ↔ bs = encode cs :=
  decodeFrom_ok_iff

end NativeBridge.Text.Utf8
