/-
  NativeBridge/Proofs/NativeStrings.lean
  ======================================
  **Texts cross the boundary unchanged, in both directions.**  What stands in front of the
  first NUL of the memory is read if it is UTF-8 and only then, whatever lies behind, and
  the text that was read is handed back in the same bytes (`ReadsBack`).  A text without a
  NUL is handed over and read again as itself; of any other the fault tells how many bytes
  stand in front of its first NUL (`HandsOver`).

  Both rest on two facts: the reader takes the bytes of a text, and nothing else, for that
  text (`textOfNative_ok_iff`), and of all characters NUL alone has a zero among its bytes
  (`zero_mem_encodeChar_iff`).
-/
import NativeBridge.Boundary.Conversion
import NativeBridge.Proofs.Encoding
import NativeBridge.Proofs.Lines
import NativeBridge.Proofs.Paths

namespace NativeBridge

open Text.Utf8 (spells_encodeChar isTail_iff decode_ok_iff)

/-! ### Zero bytes -/

theorem zero_mem_encodeChar_iff {c : Char} : 0 ∈ String.utf8EncodeChar c ↔ c = '\x00' := by
  constructor
  · intro h
    have hspells := spells_encodeChar c
    generalize String.utf8EncodeChar c = bs at h hspells
    rcases hspells with _ | ⟨ha, _, hb⟩ | ⟨ha, _, hb, _, _, hc⟩ | ⟨ha, _, hb, _, _, hc, hd⟩
    · rw [← List.mem_singleton.1 h]
      rfl
    -- where there are several bytes, each of them has its high bit set
    all_goals
      simp only [List.mem_cons, List.not_mem_nil, or_false, isTail_iff, UInt8.le_iff_toNat_le,
        ← UInt8.toNat_inj, UInt8.reduceToNat] at *
      omega
  · rintro rfl
    decide

theorem zero_mem_bytes_iff {s : String} : 0 ∈ Text.bytes s ↔ '\x00' ∈ s.toList := by
  simp only [Text.bytes, Text.Utf8.encode, List.mem_flatMap, zero_mem_encodeChar_iff,
    exists_eq_right]

theorem length_bytes (s : String) : (Text.bytes s).length = s.utf8ByteSize := by
  rw [String.utf8ByteSize, ← String.utf8Encode_toList, List.utf8Encode, List.size_toByteArray]
  rfl

/-! ### What is read -/

/-- The memory holds a NUL at this offset, and none in front of it. -/
structure FirstNul (memory : List UInt8) (n : Nat) : Prop where
  zero : memory[n]? = some 0
  before : 0 ∉ memory.take n

theorem beforeNul_append {bs : List UInt8} (h : 0 ∉ bs) (rest : List UInt8) :
    beforeNul (bs ++ 0 :: rest) = bs := by
  have hbs : ∀ b ∈ bs, (b != 0) = true := by
    intro b hb
    exact bne_iff_ne.2 (ne_of_mem_of_not_mem hb h)
  rw [beforeNul, List.takeWhile_append_of_pos hbs, List.takeWhile_cons_of_neg (by decide),
    List.append_nil]

theorem FirstNul.split {memory : List UInt8} {n : Nat} (h : FirstNul memory n) :
    memory.take n ++ 0 :: memory.drop (n + 1) = memory := by
  obtain ⟨hn, hzero⟩ := List.getElem?_eq_some_iff.1 h.zero
  have hdrop : memory.drop n = 0 :: memory.drop (n + 1) := by
    rw [List.drop_eq_getElem_cons hn, hzero]
  rw [← hdrop, List.take_append_drop]

theorem FirstNul.beforeNul_eq {memory : List UInt8} {n : Nat} (h : FirstNul memory n) :
    beforeNul memory = memory.take n := by
  rw [← h.split, beforeNul_append h.before, h.split]

theorem textOfNative_ok_iff {memory : List UInt8} {s : String} :
    textOfNative (some memory) = .ok s ↔ beforeNul memory = Text.bytes s := by
  rw [textOfNative, Text.bytes, ← decode_ok_iff]
  rcases Text.Utf8.decode (beforeNul memory) with fault | cs
  · simp
  · simp [String.ext_iff]

theorem isValidUTF8_iff {bs : List UInt8} :
    bs.toByteArray.IsValidUTF8 ↔ ∃ s, bs = Text.bytes s := by
  constructor
  · rintro ⟨cs, hcs⟩
    refine ⟨String.ofList cs, ?_⟩
    rw [Text.bytes, String.toList_ofList]
    exact List.toByteArray_inj.1 hcs
  · rintro ⟨s, rfl⟩
    exact ⟨s.toList, rfl⟩

/-! ### What is handed over -/

theorem nativeOfText_ok_iff {s : String} {bs : List UInt8} :
    nativeOfText s = .ok bs ↔ '\x00' ∉ s.toList ∧ bs = Text.bytes s := by
  rw [← zero_mem_bytes_iff, nativeOfText]
  by_cases h : 0 ∈ Text.bytes s
  · simp [h]
  · simp [h, eq_comm]

theorem nativeOfText_interior {before : String} (h : '\x00' ∉ before.toList) (after : String) :
    nativeOfText (before ++ "\x00" ++ after) = .error (.interiorNul before.utf8ByteSize) := by
  have hbytes : Text.bytes (before ++ "\x00" ++ after) =
      Text.bytes before ++ 0 :: Text.bytes after := by
    rw [bytes_append, bytes_append, List.append_assoc]
    rfl
  have hbefore : 0 ∉ Text.bytes before := by
    rwa [zero_mem_bytes_iff]
  rw [nativeOfText, hbytes, beforeNul_append hbefore, length_bytes]
  simp

/-! ### There and back -/

/-- Memory is read up to its first NUL, without regard to what follows, and what was read
    is handed back as it was. -/
structure ReadsBack (memory : List UInt8) (n : Nat) : Prop where
  accepted : (∃ s, textOfNative (some memory) = .ok s) ↔
    (memory.take n).toByteArray.IsValidUTF8
  unseen : ∀ rest, textOfNative (some (memory.take n ++ 0 :: rest)) = textOfNative (some memory)
  returned : ∀ s, textOfNative (some memory) = .ok s → nativeOfText s = .ok (memory.take n)

/-- A text is handed over unless it holds a NUL, and read again as it was, whatever lies
    behind it in the memory. -/
structure HandsOver (s : String) : Prop where
  accepted : (∃ bs, nativeOfText s = .ok bs) ↔ '\x00' ∉ s.toList
  returned : ∀ bs rest, nativeOfText s = .ok bs → textOfNative (some (bs ++ 0 :: rest)) = .ok s
  refused : '\x00' ∈ s.toList → ∃ before after, s = before ++ "\x00" ++ after ∧
    '\x00' ∉ before.toList ∧ nativeOfText s = .error (.interiorNul before.utf8ByteSize)

theorem FirstNul.readsBack {memory : List UInt8} {n : Nat} (h : FirstNul memory n) :
    ReadsBack memory n where
  accepted := by
    simp only [textOfNative_ok_iff, h.beforeNul_eq, isValidUTF8_iff]
  unseen rest := by
    rw [textOfNative, textOfNative, beforeNul_append h.before, h.beforeNul_eq]
  returned s hs := by
    rw [textOfNative_ok_iff, h.beforeNul_eq] at hs
    refine nativeOfText_ok_iff.2 ⟨?_, hs⟩
    rw [← zero_mem_bytes_iff, ← hs]
    exact h.before

theorem handsOver (s : String) : HandsOver s where
  accepted := by
    simp only [nativeOfText_ok_iff, exists_and_left, exists_eq, and_true]
  returned bs rest hbs := by
    obtain ⟨hnul, rfl⟩ := nativeOfText_ok_iff.1 hbs
    rw [← zero_mem_bytes_iff] at hnul
    exact textOfNative_ok_iff.2 (beforeNul_append hnul rest)
  refused hnul := by
    obtain ⟨before, after, hs, hbefore⟩ := List.eq_append_cons_of_mem hnul
    have hsplit : s = String.ofList before ++ "\x00" ++ String.ofList after := by
      simp [← String.toList_inj, hs]
    have hclean : '\x00' ∉ (String.ofList before).toList := by
      rwa [String.toList_ofList]
    refine ⟨String.ofList before, String.ofList after, hsplit, hclean, ?_⟩
    rw [hsplit]
    exact nativeOfText_interior hclean _

/-- Neither direction loses or adds a byte. -/
theorem texts_cross :
    (∀ memory n, FirstNul memory n → ReadsBack memory n) ∧ ∀ s, HandsOver s :=
  ⟨fun _ _ h => h.readsBack, handsOver⟩

/-- Two bytes in front of the NUL make one character. -/
theorem umlaut_crosses :
    FirstNul [0xC3, 0xBC, 0, 0xFF] 2 ∧ ReadsBack [0xC3, 0xBC, 0, 0xFF] 2 ∧
      textOfNative (some [0xC3, 0xBC, 0, 0xFF]) = .ok "ü" ∧ HandsOver "ü\x00x" ∧
      nativeOfText "ü\x00x" = .error (.interiorNul 2) := by
  have hnul : FirstNul [0xC3, 0xBC, 0, 0xFF] 2 := ⟨by decide, by decide⟩
  exact ⟨hnul, texts_cross.1 _ _ hnul, rfl, texts_cross.2 _, rfl⟩

end NativeBridge
