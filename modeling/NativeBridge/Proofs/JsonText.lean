/-
  NativeBridge/Proofs/JsonText.lean
  =================================
  **A layout is read back.**  `Json.ofText` reads the texts of JSON, as far as they hold
  numbers, texts, lists and objects: blanks may stand between any two parts, a number has
  no zero in front, and a control stands in a text only as an escape.  `Reads` says of a
  value that it is read back from its layout at any level, whatever follows; the layout of
  a list or an object has one part after the other (`readParts_partsText`), so a value is
  read back if its members are.
-/
import NativeBridge.Text.Json
import NativeBridge.Toml.Quotation
import Mathlib.Data.List.TakeWhile

namespace NativeBridge.Text.Json

open NativeBridge.Toml (codePoint push shortEscape)

/-! ### The reader -/

def isGap (c : Char) : Bool := c == ' ' || c == '\n' || c == '\t' || c == '\r'

def skipGap (cs : List Char) : List Char := cs.dropWhile isGap

/-- Digits, the first of which is zero only if it is the only one. -/
def readNumber (cs : List Char) : Option (Nat × List Char) :=
  let digits := cs.takeWhile Char.isDigit
  let n := Nat.ofDigitChars 10 digits 0
  if Nat.toDigits 10 n = digits then some (n, cs.dropWhile Char.isDigit) else none

/-- The character that a letter after a backslash stands for. -/
def escaped (c : Char) : Option Char := if c = '/' then some '/' else shortEscape c

/-- A text behind its opening quote, and what follows the closing one.  An escape by
    digits stands for one code point; pairs of surrogates are not read. -/
def readText : List Char → Option (List Char × List Char)
  | [] => none
  | '"' :: cs => some ([], cs)
  | '\\' :: 'u' :: a :: b :: c :: d :: cs =>
    match codePoint [a, b, c, d] with
    | some x => push x (readText cs)
    | none => none
  | '\\' :: c :: cs =>
    match escaped c with
    | some x => push x (readText cs)
    | none => none
  | c :: cs => if c = '\\' ∨ c.toNat < 0x20 then none else push c (readText cs)

section

variable {α : Type}

/-- At least one part and whatever follows the closing mark; commas stand between parts. -/
def readParts (part : List Char → Option (α × List Char)) (closing : Char) :
    (most : Nat) → List Char → Option (List α × List Char)
  | 0, _ => none
  | most + 1, cs => do
    let (x, cs) ← part cs
    match skipGap cs with
    | [] => none
    | c :: cs =>
      if c = closing then some ([x], cs)
      else if c = ',' then do
        let (xs, cs) ← readParts part closing most cs
        some (x :: xs, cs)
      else none

/-- Parts behind an opening mark, or none at all. -/
def readBlock (part : List Char → Option (α × List Char)) (closing : Char) (cs : List Char) :
    Option (List α × List Char) :=
  match skipGap cs with
  | [] => none
  | c :: rest => if c = closing then some ([], rest) else readParts part closing cs.length cs

/-- A name, a colon and a value. -/
def readField (value : List Char → Option (α × List Char)) (cs : List Char) :
    Option ((String × α) × List Char) :=
  match skipGap cs with
  | '"' :: cs => do
    let (name, cs) ← readText cs
    match skipGap cs with
    | ':' :: cs => do
      let (x, cs) ← value cs
      some ((String.ofList name, x), cs)
    | _ => none
  | _ => none

end

/-- A value with blanks in front, of fewer levels than `depth`. -/
def readValue : (depth : Nat) → List Char → Option (Json × List Char)
  | 0, _ => none
  | depth + 1, cs =>
    match skipGap cs with
    | '[' :: cs => do
      let (items, cs) ← readBlock (readValue depth) ']' cs
      some (.list items, cs)
    | '\x7b' :: cs => do
      let (fields, cs) ← readBlock (readField (readValue depth)) '\x7d' cs
      some (.object fields, cs)
    | '"' :: cs => do
      let (s, cs) ← readText cs
      some (.text (String.ofList s), cs)
    | cs => do
      let (n, cs) ← readNumber cs
      some (.number n, cs)

/-- The value whose text this is.  No text has more levels than characters. -/
def ofText (text : String) : Option Json :=
  match readValue (text.toList.length + 1) text.toList with
  | some (j, rest) => if skipGap rest = [] then some j else none
  | none => none

/-! ### Numbers -/

/-- What may follow a number. -/
def EndsNumber (cs : List Char) : Prop := ∀ c ∈ cs.head?, c.isDigit = false

theorem EndsNumber.cons {c : Char} (h : c.isDigit = false) (cs : List Char) :
    EndsNumber (c :: cs) := by
  rintro d ⟨⟩
  exact h

theorem readNumber_digits (n : Nat) {rest : List Char} (h : EndsNumber rest) :
    readNumber (Nat.toDigits 10 n ++ rest) = some (n, rest) := by
  have hdigits : ∀ c ∈ Nat.toDigits 10 n, c.isDigit = true := fun c hc =>
    Nat.isDigit_of_mem_toDigits (by decide) (by decide) hc
  have hends : rest.takeWhile Char.isDigit = [] ∧ rest.dropWhile Char.isDigit = rest := by
    cases rest with
    | nil => exact ⟨rfl, rfl⟩
    | cons c rest => simp [h c rfl]
  have htaken : (Nat.toDigits 10 n ++ rest).takeWhile Char.isDigit = Nat.toDigits 10 n := by
    rw [List.takeWhile_append_of_pos hdigits, hends.1, List.append_nil]
  have hleft : (Nat.toDigits 10 n ++ rest).dropWhile Char.isDigit = rest := by
    rw [List.dropWhile_append_of_pos hdigits, hends.2]
  simp only [readNumber, htaken, hleft, Nat.ofDigitChars_ten_toDigits, if_true]

/-! ### Texts -/

theorem readText_short {c x : Char} (hu : c ≠ 'u') (hc : escaped c = some x) (cs : List Char) :
    readText ('\\' :: c :: cs) = push x (readText cs) := by
  rw [readText, hc]
  intros
  contradiction

theorem readText_plain {c : Char} (hquote : c ≠ '"') (hback : c ≠ '\\') (hc : ¬c.toNat < 0x20)
    (cs : List Char) : readText (c :: cs) = push c (readText cs) := by
  rw [readText, if_neg (by simp [hback, hc])]
  · exact hquote
  · intros
    contradiction
  · intros
    contradiction

/-- The four digits of a control. -/
theorem digits_of_control : ∀ n < 0x20,
    (String.ofList (List.replicate (4 - (hexadecimal n).length) '0') ++ hexadecimal n).toList =
      ['0', '0', Nat.digitChar (n / 16), Nat.digitChar (n % 16)] := by
  decide +kernel

theorem codePoint_of_control : ∀ n < 0x20,
    codePoint ['0', '0', Nat.digitChar (n / 16), Nat.digitChar (n % 16)] =
      some (Char.ofNat n) := by
  decide +kernel

theorem readText_control {c : Char} (h : c.toNat < 0x20) (cs : List Char) :
    readText ('\\' :: 'u' :: '0' :: '0' :: Nat.digitChar (c.toNat / 16) ::
      Nat.digitChar (c.toNat % 16) :: cs) = push c (readText cs) := by
  rw [readText, codePoint_of_control c.toNat h, Char.ofNat_toNat]

theorem readText_escapeChar (c : Char) (cs : List Char) :
    readText ((escapeChar c).toList ++ cs) = push c (readText cs) := by
  fun_cases escapeChar c with
  | case8 _ _ _ _ _ _ _ _ hcontrol =>
    rw [String.append_assoc, String.toList_append, digits_of_control _ hcontrol]
    exact readText_control hcontrol cs
  | case9 _ hquote hback _ _ _ _ _ hcontrol =>
    rw [String.toList_singleton]
    exact readText_plain hquote hback hcontrol cs
  | _ => exact readText_short (by decide) (by decide) cs

theorem readText_escaped (cs rest : List Char) :
    readText (cs.flatMap (fun c => (escapeChar c).toList) ++ '"' :: rest) = some (cs, rest) := by
  induction cs with
  | nil => rfl
  | cons c cs ih =>
    rw [List.flatMap_cons, List.append_assoc, readText_escapeChar, ih]
    rfl

theorem toList_quote (s : String) :
    (quote s).toList = '"' :: (s.toList.flatMap (fun c => (escapeChar c).toList) ++ ['"']) := by
  simp [quote, String.toList_join, List.flatMap_map]

/-! ### Blanks -/

theorem skipGap_cons {c : Char} (h : isGap c = false) (cs : List Char) :
    skipGap (c :: cs) = c :: cs := List.dropWhile_cons_of_neg (by simp [h])

/-- A text on a line of its own, with what follows it. -/
def onLine (level : Nat) (s : String) (rest : List Char) : List Char :=
  '\n' :: ((indent level).toList ++ (s.toList ++ rest))

theorem skipGap_onLine (level : Nat) (s : String) (rest : List Char) :
    skipGap (onLine level s rest) = skipGap (s.toList ++ rest) := by
  have hgap : ∀ c ∈ (indent level).toList, isGap c = true := by
    intro c hc
    rw [indent, String.toList_ofList] at hc
    rw [List.eq_of_mem_replicate hc]
    rfl
  exact List.dropWhile_append_of_pos hgap

/-- A text that starts with something else than a blank or a mark. -/
def Opens (closing : Char) (s : String) : Prop :=
  ∃ c cs, s.toList = c :: cs ∧ isGap c = false ∧ c ≠ closing

theorem Opens.skipGap_append {closing : Char} {s : String} (h : Opens closing s)
    (cs : List Char) : skipGap (s.toList ++ cs) = s.toList ++ cs := by
  obtain ⟨c, cs', hs, hgap, -⟩ := h
  rw [hs]
  exact skipGap_cons hgap _

/-! ### Blocks -/

/-- The lines of a block behind its opening mark. -/
def partsText (level : Nat) (closing : Char) (rest : List Char) (line : String) :
    List String → List Char
  | [] => onLine (level + 1) line (onLine level (String.singleton closing) rest)
  | line' :: lines => onLine (level + 1) line (',' :: partsText level closing rest line' lines)

theorem toList_lines (level : Nat) (closing : Char) (rest : List Char) (line : String)
    (lines : List String) :
    '\n' :: ((",\n".intercalate ((line :: lines).map (indent (level + 1) ++ ·))).toList ++
      onLine level (String.singleton closing) rest) = partsText level closing rest line lines := by
  induction lines generalizing line with
  | nil => simp [partsText, onLine]
  | cons line' lines ih =>
    rw [partsText, ← ih line', List.map_cons, List.map_cons, String.intercalate_cons_cons]
    simp [onLine]

theorem toList_block_cons (opening closing : Char) (level : Nat) (line : String)
    (lines : List String) (rest : List Char) :
    (block (String.singleton opening) (String.singleton closing) level (line :: lines)).toList ++
      rest = opening :: partsText level closing rest line lines := by
  rw [← toList_lines, block, if_neg (by simp)]
  simp [onLine]

theorem length_onLine (level : Nat) (s : String) (rest : List Char) :
    (onLine level s rest).length = 2 * level + s.toList.length + rest.length + 1 := by
  rw [onLine, List.length_cons, List.length_append, List.length_append, indent,
    String.toList_ofList, List.length_replicate]
  omega

theorem partsText_starts (level : Nat) (closing : Char) (rest : List Char) (line : String)
    (lines : List String) :
    ∃ cs, partsText level closing rest line lines = onLine (level + 1) line cs := by
  cases lines with
  | nil => exact ⟨_, rfl⟩
  | cons line' lines => exact ⟨_, rfl⟩

/-- Every line of a block is shorter than the block. -/
theorem length_lt_partsText (level : Nat) (closing : Char) (rest : List Char) {line l : String}
    {lines : List String} (h : l ∈ line :: lines) :
    l.toList.length + lines.length + rest.length <
      (partsText level closing rest line lines).length := by
  induction lines generalizing line l with
  | nil =>
    obtain rfl := List.mem_singleton.1 h
    rw [partsText, length_onLine, length_onLine, List.length_nil]
    omega
  | cons line' lines ih =>
    rw [partsText, length_onLine, List.length_cons, List.length_cons]
    rcases List.mem_cons.1 h with rfl | h
    · have hrest := ih (List.mem_cons_self (a := line'))
      omega
    · have hrest := ih h
      omega

theorem block_opens {opening other : Char} (hgap : isGap opening = false)
    (hother : opening ≠ other) (closing : Char) (level : Nat) (lines : List String) :
    Opens other (block (String.singleton opening) (String.singleton closing) level lines) := by
  cases lines with
  | nil => exact ⟨opening, [closing], by simp [block], hgap, hother⟩
  | cons line lines =>
    have hblock := toList_block_cons opening closing level line lines []
    rw [List.append_nil] at hblock
    exact ⟨opening, _, hblock, hgap, hother⟩

theorem length_lt_block (opening closing : Char) (level : Nat) {l : String}
    {lines : List String} (h : l ∈ lines) :
    l.toList.length + 1 <
      (block (String.singleton opening) (String.singleton closing) level lines).toList.length := by
  cases lines with
  | nil => cases h
  | cons line lines =>
    have hblock := toList_block_cons opening closing level line lines []
    have hlength := length_lt_partsText level closing [] h
    rw [List.append_nil] at hblock
    rw [hblock, List.length_cons]
    omega

section

variable {α : Type} {part : List Char → Option (α × List Char)} {closing : Char}

/-- A part is read back from a line, whatever blanks are in front of it. -/
structure ReadsLine (part : List Char → Option (α × List Char)) (closing : Char) (x : α)
    (line : String) : Prop where
  opens : Opens closing line
  reads : ∀ cs rest, EndsNumber rest → skipGap cs = line.toList ++ rest →
    part cs = some (x, rest)

theorem ReadsLine.onLine {x : α} {line : String} (h : ReadsLine part closing x line)
    (level : Nat) (rest : List Char) (hrest : EndsNumber rest) :
    part (onLine level line rest) = some (x, rest) := by
  refine h.reads _ rest hrest ?_
  rw [skipGap_onLine, h.opens.skipGap_append]

theorem readParts_partsText {line : α → String} (hgap : isGap closing = false)
    (hcomma : closing ≠ ',') (level : Nat) (rest : List Char) {x : α} {xs : List α}
    (h : ∀ y ∈ x :: xs, ReadsLine part closing y (line y)) :
    ∀ most > xs.length, readParts part closing most
      (partsText level closing rest (line x) (xs.map line)) = some (x :: xs, rest) := by
  induction xs generalizing x with
  | nil =>
    rintro (_ | most) hmost
    · cases hmost
    have hx := (h x List.mem_cons_self).onLine (level + 1)
      (onLine level (String.singleton closing) rest) (.cons rfl _)
    rw [List.map_nil, partsText, readParts, hx]
    simp [skipGap_onLine, skipGap_cons hgap]
  | cons x' xs ih =>
    rintro (_ | most) hmost
    · cases hmost
    have hx := (h x List.mem_cons_self).onLine (level + 1)
      (',' :: partsText level closing rest (line x') (xs.map line)) (.cons rfl _)
    have hxs := ih (fun y hy => h y (List.mem_cons_of_mem _ hy)) most (by simpa using hmost)
    rw [List.map_cons, partsText, readParts, hx]
    simp [skipGap_cons (c := ',') rfl, hcomma.symm, hxs]

theorem readBlock_block {line : α → String} (hgap : isGap closing = false)
    (hcomma : closing ≠ ',') (opening : Char) (level : Nat) (rest : List Char) {xs : List α}
    (h : ∀ y ∈ xs, ReadsLine part closing y (line y)) :
    ∃ cs, (block (String.singleton opening) (String.singleton closing) level
        (xs.map line)).toList ++ rest = opening :: cs ∧
      readBlock part closing cs = some (xs, rest) := by
  cases xs with
  | nil =>
    refine ⟨closing :: rest, by simp [block], ?_⟩
    simp [readBlock, skipGap_cons hgap]
  | cons x xs =>
    refine ⟨_, toList_block_cons opening closing level (line x) (xs.map line) rest, ?_⟩
    have hmost : xs.length < (partsText level closing rest (line x) (xs.map line)).length := by
      have hlength := length_lt_partsText level closing rest
        (List.mem_cons_self (a := line x) (l := xs.map line))
      rw [List.length_map] at hlength
      omega
    have hparts := readParts_partsText hgap hcomma level rest h _ hmost
    obtain ⟨cs, hcs⟩ := partsText_starts level closing rest (line x) (xs.map line)
    obtain ⟨c, cs', hline, hgap', hclosing⟩ := (h x List.mem_cons_self).opens
    have hstart : skipGap (partsText level closing rest (line x) (xs.map line)) =
        c :: (cs' ++ cs) := by
      rw [hcs, skipGap_onLine, hline]
      exact skipGap_cons hgap' _
    rw [readBlock, hstart]
    simp only [if_neg hclosing, hparts]

end

/-! ### Layouts -/

theorem layout_number (level n : Nat) : (layout level (.number n)).toList = Nat.toDigits 10 n := by
  rw [layout, Nat.toString_eq_repr, Nat.toList_repr]

theorem layout_text (level : Nat) (s : String) :
    (layout level (.text s)).toList =
      '"' :: (s.toList.flatMap (fun c => (escapeChar c).toList) ++ ['"']) := by
  rw [layout, toList_quote]

theorem layout_list (level : Nat) (items : List Json) :
    layout level (.list items) =
      block (String.singleton '[') (String.singleton ']') level
        (items.map (layout (level + 1))) := by
  have hitems : layoutItems (level + 1) items = items.map (layout (level + 1)) := by
    induction items with
    | nil => rw [layoutItems, List.map_nil]
    | cons j items ih => rw [layoutItems, ih, List.map_cons]
  rw [layout, hitems]
  rfl

/-- The line of a field. -/
def fieldLine (level : Nat) (field : String × Json) : String :=
  quote field.1 ++ ": " ++ layout level field.2

theorem layout_object (level : Nat) (fields : List (String × Json)) :
    layout level (.object fields) =
      block (String.singleton '\x7b') (String.singleton '\x7d') level
        (fields.map (fieldLine (level + 1))) := by
  have hfields : layoutFields (level + 1) fields = fields.map (fieldLine (level + 1)) := by
    induction fields with
    | nil => rw [layoutFields, List.map_nil]
    | cons field fields ih => rw [layoutFields, ih, List.map_cons, fieldLine]
  rw [layout, hfields]
  rfl

theorem toDigits_starts (n : Nat) : ∃ d ds, Nat.toDigits 10 n = d :: ds ∧ d.isDigit = true := by
  obtain ⟨d, ds, hdigits⟩ := List.exists_cons_of_ne_nil (Nat.toDigits_ne_nil (n := n) (b := 10))
  have hmem : d ∈ Nat.toDigits 10 n := by
    rw [hdigits]
    exact List.mem_cons_self
  exact ⟨d, ds, hdigits, Nat.isDigit_of_mem_toDigits (by decide) (by decide) hmem⟩

/-- No digit is a blank. -/
theorem isGap_of_isDigit {d : Char} (h : d.isDigit = true) : isGap d = false := by
  by_contra hgap
  simp only [isGap, Bool.not_eq_false, Bool.or_eq_true, beq_iff_eq] at hgap
  rcases hgap with ((rfl | rfl) | rfl) | rfl <;> cases h

theorem layout_opens (level : Nat) (j : Json) : Opens ']' (layout level j) := by
  cases j with
  | number n =>
    obtain ⟨d, ds, hdigits, hdigit⟩ := toDigits_starts n
    refine ⟨d, ds, by rw [layout_number, hdigits], isGap_of_isDigit hdigit, ?_⟩
    rintro rfl
    cases hdigit
  | text s => exact ⟨'"', _, layout_text level s, rfl, by decide⟩
  | list items =>
    rw [layout_list]
    exact block_opens rfl (by decide) ..
  | object fields =>
    rw [layout_object]
    exact block_opens rfl (by decide) ..

/-! ### Values -/

/-- A value is read back from its layout, whatever follows it. -/
def Reads (j : Json) : Prop :=
  ∀ (level depth : Nat) (cs rest : List Char), (layout level j).toList.length < depth →
    EndsNumber rest → skipGap cs = (layout level j).toList ++ rest →
      readValue depth cs = some (j, rest)

theorem reads_number (n : Nat) : Reads (.number n) := by
  rintro level (_ | depth) cs rest hdepth hrest hcs
  · cases hdepth
  obtain ⟨d, ds, hdigits, hdigit⟩ := toDigits_starts n
  have hread := readNumber_digits n hrest
  rw [layout_number] at hcs
  rw [hdigits, List.cons_append] at hread hcs
  have hother (c : Char) (hc : c.isDigit = false) : d ≠ c := by
    rintro rfl
    rw [hc] at hdigit
    cases hdigit
  rw [readValue, hcs]
  split
  case h_1 heq => exact absurd (List.cons.inj heq).1 (hother '[' rfl)
  case h_2 heq => exact absurd (List.cons.inj heq).1 (hother '\x7b' rfl)
  case h_3 heq => exact absurd (List.cons.inj heq).1 (hother '"' rfl)
  case h_4 => simp [hread]

theorem reads_text (s : String) : Reads (.text s) := by
  rintro level (_ | depth) cs rest hdepth hrest hcs
  · cases hdepth
  have hread := readText_escaped s.toList rest
  rw [readValue, hcs, layout_text]
  simp [hread]

theorem reads_list {items : List Json} (h : ∀ j ∈ items, Reads j) : Reads (.list items) := by
  rintro level (_ | depth) cs rest hdepth hrest hcs
  · cases hdepth
  rw [layout_list] at hdepth hcs
  have hline : ∀ j ∈ items, ReadsLine (readValue depth) ']' j (layout (level + 1) j) := by
    intro j hj
    have hlength := length_lt_block '[' ']' level (List.mem_map_of_mem (f := layout (level + 1)) hj)
    exact ⟨layout_opens _ j, fun cs rest => h j hj (level + 1) depth cs rest (by omega)⟩
  obtain ⟨cs', hblock, hread⟩ := readBlock_block rfl (by decide) '[' level rest hline
  rw [readValue, hcs, hblock]
  simp [hread]

theorem readsLine_field {value : List Char → Option (Json × List Char)} {level : Nat}
    {field : String × Json}
    (h : ∀ cs rest, EndsNumber rest → skipGap cs = (layout level field.2).toList ++ rest →
      value cs = some (field.2, rest)) :
    ReadsLine (readField value) '\x7d' field (fieldLine level field) := by
  have hline (rest : List Char) : (fieldLine level field).toList ++ rest =
      '"' :: (field.1.toList.flatMap (fun c => (escapeChar c).toList) ++
        '"' :: ':' :: ' ' :: ((layout level field.2).toList ++ rest)) := by
    simp [fieldLine, toList_quote]
  constructor
  case opens =>
    have hstart := hline []
    rw [List.append_nil] at hstart
    exact ⟨'"', _, hstart, rfl, by decide⟩
  case reads =>
    intro cs rest hrest hcs
    have hvalue := h (' ' :: ((layout level field.2).toList ++ rest)) rest hrest
      ((layout_opens level field.2).skipGap_append rest)
    rw [readField, hcs, hline]
    simp [readText_escaped, skipGap_cons (c := ':') rfl, hvalue]

theorem reads_object {fields : List (String × Json)} (h : ∀ field ∈ fields, Reads field.2) :
    Reads (.object fields) := by
  rintro level (_ | depth) cs rest hdepth hrest hcs
  · cases hdepth
  rw [layout_object] at hdepth hcs
  have hline : ∀ field ∈ fields,
      ReadsLine (readField (readValue depth)) '\x7d' field (fieldLine (level + 1) field) := by
    intro field hfield
    have hlength :=
      length_lt_block '\x7b' '\x7d' level (List.mem_map_of_mem (f := fieldLine (level + 1)) hfield)
    rw [fieldLine, String.toList_append, String.toList_append, List.length_append,
      List.length_append] at hlength
    exact readsLine_field fun cs rest => h field hfield (level + 1) depth cs rest (by omega)
  obtain ⟨cs', hblock, hread⟩ := readBlock_block rfl (by decide) '\x7b' level rest hline
  rw [readValue, hcs, hblock]
  simp [hread]

mutual

/-- Every value is read back, by induction on the value. -/
theorem reads : (j : Json) → Reads j
  | .number n => reads_number n
  | .text s => reads_text s
  | .list items => reads_list (reads_items items)
  | .object fields => reads_object (reads_fields fields)

theorem reads_items : (items : List Json) → ∀ j ∈ items, Reads j
  | [] => List.forall_mem_nil _
  | j :: items => List.forall_mem_cons.2 ⟨reads j, reads_items items⟩

theorem reads_fields : (fields : List (String × Json)) → ∀ field ∈ fields, Reads field.2
  | [] => List.forall_mem_nil _
  | (_, j) :: fields => List.forall_mem_cons.2 ⟨reads j, reads_fields fields⟩

end

/-- A document is read back from its layout with a line end. -/
theorem ofText_layout (j : Json) : ofText (j.layout 0 ++ "\n") = some j := by
  have hstart : skipGap (j.layout 0 ++ "\n").toList = (j.layout 0).toList ++ ['\n'] := by
    rw [String.toList_append]
    exact (layout_opens 0 j).skipGap_append _
  have hlength : (j.layout 0).toList.length < (j.layout 0 ++ "\n").toList.length + 1 := by
    rw [String.toList_append, List.length_append]
    omega
  rw [ofText, reads j 0 _ _ _ hlength (.cons rfl _) hstart]
  rfl

/-- Nothing stands between a comma and the end of a list. -/
example : ofText "[1, 2]" = some (.list [.number 1, .number 2]) ∧ ofText "[1, ]" = none := by
  constructor <;> rfl

end NativeBridge.Text.Json
