/-
  NativeBridge/Proofs/SymbolLiteral.lean
  ======================================
  **The exported symbol survives its string literal.**  A literal is read from behind the
  quote that opens it: a backslash gives the character behind it, and the first quote that no
  backslash takes closes the literal.  `InLiteral` says what may stand between the quotes for
  a text, and `readLiteral_eq_some_iff` that this is what the reader reads.  The reader has
  one answer only, so what stands for a text is not closed before its end
  (`InLiteral.unclosed`).

  A symbol is escaped character by character.  That is the same as to replace all backslashes
  and then all quotes (`escapeSymbol_eq_replaced`): the backslashes that the second pass puts
  in front of quotes come too late to be replaced.
-/
import NativeBridge.Bridge.Rendering
import NativeBridge.Proofs.Lines

namespace NativeBridge

/-! ### Reading a literal -/

/-- The text of a literal and what follows it, read from behind the quote that opens it;
    nothing if no quote closes it. -/
def readLiteral : List Char → Option (List Char × List Char)
  | [] => none
  | '"' :: cs => some ([], cs)
  | '\\' :: c :: cs => (readLiteral cs).map fun (text, rest) => (c :: text, rest)
  | c :: cs => (readLiteral cs).map fun (text, rest) => (c :: text, rest)

/-- Characters between the quotes of a literal, and the text that they stand for. -/
inductive InLiteral : List Char → List Char → Prop
  | empty : InLiteral [] []
  | itself {c : Char} {cs text : List Char} (backslash : c ≠ '\\') (quote : c ≠ '"')
      (next : InLiteral cs text) : InLiteral (c :: cs) (c :: text)
  | escaped {c : Char} {cs text : List Char} (next : InLiteral cs text) :
      InLiteral ('\\' :: c :: cs) (c :: text)

section

variable {c : Char} {cs text rest : List Char}

theorem readLiteral_escaped (h : readLiteral cs = some (text, rest)) :
    readLiteral ('\\' :: c :: cs) = some (c :: text, rest) := by
  rw [readLiteral, h]
  rfl

theorem readLiteral_itself (backslash : c ≠ '\\') (quote : c ≠ '"')
    (h : readLiteral cs = some (text, rest)) :
    readLiteral (c :: cs) = some (c :: text, rest) := by
  rw [readLiteral, h]
  · rfl
  · exact quote
  · intro _ _ hc
    exact absurd hc backslash

theorem readLiteral_of_inLiteral (h : InLiteral cs text) (rest : List Char) :
    readLiteral (cs ++ '"' :: rest) = some (text, rest) := by
  induction h with
  | empty => rfl
  | itself backslash quote _ ih => exact readLiteral_itself backslash quote ih
  | escaped _ ih => exact readLiteral_escaped ih

theorem inLiteral_of_readLiteral (h : readLiteral cs = some (text, rest)) :
    ∃ written, cs = written ++ '"' :: rest ∧ InLiteral written text := by
  fun_induction readLiteral cs generalizing text with
  | case1 => cases h
  | case2 cs =>
    cases h
    exact ⟨[], rfl, .empty⟩
  | case3 c cs ih =>
    obtain ⟨⟨text', rest'⟩, hread, hpair⟩ := Option.map_eq_some_iff.1 h
    cases hpair
    obtain ⟨written, rfl, hwritten⟩ := ih hread
    exact ⟨'\\' :: c :: written, rfl, .escaped hwritten⟩
  | case4 c cs quote hescape ih =>
    obtain ⟨⟨text', rest'⟩, hread, hpair⟩ := Option.map_eq_some_iff.1 h
    cases hpair
    obtain ⟨written, hcs, hwritten⟩ := ih hread
    have backslash : c ≠ '\\' := by
      intro hc
      cases cs with
      | nil => cases hread
      | cons d cs => exact hescape d cs hc rfl
    exact ⟨c :: written, congrArg (c :: ·) hcs, .itself backslash quote hwritten⟩

/-- What is read is what stands up to a quote, and nothing else is. -/
theorem readLiteral_eq_some_iff :
    readLiteral cs = some (text, rest) ↔
      ∃ written, cs = written ++ '"' :: rest ∧ InLiteral written text := by
  refine ⟨inLiteral_of_readLiteral, ?_⟩
  rintro ⟨written, rfl, hwritten⟩
  exact readLiteral_of_inLiteral hwritten rest

/-- Nothing that stands for a text is closed on the way. -/
theorem InLiteral.unclosed {first last : List Char} (h : InLiteral (first ++ last) text) :
    readLiteral first = none := by
  cases hread : readLiteral first with
  | none => rfl
  | some read =>
    obtain ⟨text', rest'⟩ := read
    obtain ⟨written, rfl, hwritten⟩ := readLiteral_eq_some_iff.1 hread
    -- a quote behind the whole closes it with nothing left, and the one inside with more
    have hwhole := readLiteral_of_inLiteral h []
    have hearly := readLiteral_of_inLiteral hwritten (rest' ++ (last ++ ['"']))
    rw [List.append_assoc, List.append_assoc, List.cons_append, hearly] at hwhole
    simp at hwhole

end

/-! ### Escaping -/

/-- Characters with one of them replaced wherever it stands. -/
def replaceChar (c : Char) (new cs : List Char) : List Char :=
  cs.flatMap fun d => if d = c then new else [d]

theorem toList_escapeSymbol (symbol : String) :
    (escapeSymbol symbol).toList = symbol.toList.flatMap escapeChar := String.toList_ofList

theorem inLiteral_flatMap_escapeChar (cs : List Char) : InLiteral (cs.flatMap escapeChar) cs := by
  induction cs with
  | nil => exact .empty
  | cons c cs ih =>
    rw [List.flatMap_cons, escapeChar]
    by_cases hc : c = '\\' ∨ c = '"'
    · rw [if_pos hc]
      exact .escaped ih
    · rw [if_neg hc]
      exact .itself (fun h => hc (.inl h)) (fun h => hc (.inr h)) ih

theorem inLiteral_escapeSymbol (symbol : String) :
    InLiteral (escapeSymbol symbol).toList symbol.toList := by
  rw [toList_escapeSymbol]
  exact inLiteral_flatMap_escapeChar symbol.toList

/-- To escape is to replace all backslashes, and then all quotes. -/
theorem escapeSymbol_eq_replaced (symbol : String) :
    (escapeSymbol symbol).toList =
      replaceChar '"' ['\\', '"'] (replaceChar '\\' ['\\', '\\'] symbol.toList) := by
  have hchar : ∀ c, escapeChar c =
      replaceChar '"' ['\\', '"'] (if c = '\\' then ['\\', '\\'] else [c]) := by
    intro c
    by_cases hbackslash : c = '\\'
    · subst hbackslash
      decide
    · by_cases hquote : c = '"'
      · subst hquote
        decide
      · simp [escapeChar, replaceChar, hbackslash, hquote]
  rw [toList_escapeSymbol, replaceChar, replaceChar, List.flatMap_assoc]
  exact congrArg (symbol.toList.flatMap ·) (funext hchar)

/-- In the other order the backslash in front of a quote is replaced in turn, and the quote
    closes the literal. -/
example :
    readLiteral (replaceChar '\\' ['\\', '\\'] (replaceChar '"' ['\\', '"'] ['"']) ++ ['"']) =
      some (['\\'], ['"']) := by
  decide

/-! ### The line of the symbol -/

/-- What stands behind the first quote. -/
def behindQuote (cs : List Char) : List Char := (cs.dropWhile (· != '"')).tail

section

variable {b b' : Bridge}

theorem behindQuote_append {before : List Char} (h : '"' ∉ before) (cs : List Char) :
    behindQuote (before ++ '"' :: cs) = cs := by
  have hpast : ∀ c ∈ before, (c != '"') = true := by
    intro c hc
    rw [bne_iff_ne]
    rintro rfl
    exact h hc
  rw [behindQuote, List.dropWhile_append_of_pos hpast]
  rfl

/-- A symbol is read from between any two texts, if the first quote is the last character of
    the one and the other starts with a quote. -/
theorem readLiteral_between {opening closing : String} {before after : List Char}
    (hopening : opening.toList = before ++ ['"']) (hbefore : '"' ∉ before)
    (hclosing : closing.toList = '"' :: after) (symbol : String) (cs : List Char) :
    readLiteral (behindQuote ((opening ++ escapeSymbol symbol ++ closing).toList ++ cs)) =
      some (symbol.toList, after ++ cs) := by
  rw [String.toList_append, String.toList_append, hopening, hclosing, List.append_assoc,
    List.append_assoc, List.append_assoc, List.singleton_append, List.cons_append,
    behindQuote_append hbefore]
  exact readLiteral_of_inLiteral (inLiteral_escapeSymbol symbol) (after ++ cs)

/-- Whatever follows the line, its literal is read as the symbol. -/
theorem readLiteral_exportLine (b : Bridge) (cs : List Char) :
    readLiteral (behindQuote (b.exportLine.toList ++ cs)) =
      some (b.exportName.toList, ")]".toList ++ cs) := by
  have hopening :
      "#[unsafe(export_name = \"".toList = "#[unsafe(export_name = ".toList ++ ['"'] := by
    decide
  have hclosing : "\")]".toList = '"' :: ")]".toList := by
    decide
  exact readLiteral_between hopening (by decide) hclosing b.exportName cs

theorem exportLine_injective (h : b.exportLine = b'.exportLine) :
    b.exportName = b'.exportName := by
  have hread := readLiteral_exportLine b []
  rw [h, readLiteral_exportLine] at hread
  obtain ⟨hname, -⟩ := Prod.mk.inj (Option.some.inj hread)
  exact (String.toList_injective hname).symm

end

/-- **A symbol as a string literal.**  The first line of a bridge holds it: read from behind
    the first quote it is the symbol, and what is left is the end of the line; in the text of
    the whole bridge, the other lines follow.  What is written for it is the symbol with its
    backslashes, and then its quotes, replaced.  No part of that closes the literal, and
    another symbol has another line. -/
structure SurvivesLiteral (b : Bridge) : Prop where
  leads : b.lines.head? = some b.exportLine
  read : readLiteral (behindQuote b.exportLine.toList) = some (b.exportName.toList, ")]".toList)
  within : readLiteral (behindQuote (linesText b.lines).toList) =
    some (b.exportName.toList, (")]\n" ++ linesText b.lines.tail).toList)
  replaced : (escapeSymbol b.exportName).toList =
    replaceChar '"' ['\\', '"'] (replaceChar '\\' ['\\', '\\'] b.exportName.toList)
  unclosed : ∀ first last, (escapeSymbol b.exportName).toList = first ++ last →
    readLiteral first = none
  apart : ∀ b' : Bridge, b'.exportName ≠ b.exportName → b'.exportLine ≠ b.exportLine

theorem symbol_survives_literal (b : Bridge) : SurvivesLiteral b where
  leads := rfl
  read := by
    have hread := readLiteral_exportLine b []
    rw [List.append_nil, List.append_nil] at hread
    exact hread
  within := by
    have hlines : b.lines = b.exportLine :: b.lines.tail := rfl
    have htext : (linesText b.lines).toList =
        b.exportLine.toList ++ ("\n".toList ++ (linesText b.lines.tail).toList) := by
      rw [hlines, linesText_cons, String.toList_append, String.toList_append, List.append_assoc]
      rfl
    rw [htext, readLiteral_exportLine, String.toList_append]
    rfl
  replaced := escapeSymbol_eq_replaced b.exportName
  unclosed first last hsplit := by
    have hwritten := inLiteral_escapeSymbol b.exportName
    rw [hsplit] at hwritten
    exact hwritten.unclosed
  apart b' hother hline := hother (exportLine_injective hline)

end NativeBridge
