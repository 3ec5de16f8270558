/-
  NativeBridge/Proofs/Hygiene.lean
  ================================
  **Where names of a unit may go astray.**  Three kinds of names meet in the text of a
  unit: those of its functions, those of the runtime that every body calls, and those
  inside a body.  Generation only keeps apart what is of one kind: nothing in a catalog is
  refused for meeting a name of another kind.  What comes of this is said here exactly.

  Identifiers have the right shape.  They come out as words of the language or as the name
  of a runtime function only where a symbol already spells that word
  (`ident_eq_iff_comesOutAs`).  A call is captured only where the catalog gives it a path
  that is spelled like a name of the body which is known at this place
  (`Checked.captures_iff`); the loop over the arguments is gone through with the names that
  it has bound so far (`captures_argumentStatements_iff`).
-/
import NativeBridge.Proofs.Identifiers
import NativeBridge.Proofs.Scoping

namespace NativeBridge

/-! ### Legal names -/

/-- The words that the language of units keeps for itself. -/
def reservedWords : List String :=
  ["as", "break", "const", "continue", "crate", "else", "enum", "extern", "false", "fn", "for",
   "if", "impl", "in", "let", "loop", "match", "mod", "move", "mut", "pub", "ref", "return",
   "self", "Self", "static", "struct", "super", "trait", "true", "type", "unsafe", "use",
   "where", "while", "async", "await", "dyn", "abstract", "become", "box", "do", "final",
   "macro", "override", "priv", "typeof", "unsized", "virtual", "yield", "try"]

/-- The name of a function: it has the shape of an identifier, and more than an underscore,
    and is no reserved word. -/
structure LegalName (ident : String) : Prop where
  shaped : Shaped ident.toList
  notAlone : ident ≠ "_"
  notReserved : ident ∉ reservedWords

/-- The functions of the runtime that every body calls by their bare names. -/
def runtimeNames : List String := [attachPath, "run_with_exception_conversion"]

/-- Characters of an identifier, of which the first is a letter. -/
def Worded (cs : List Char) : Prop := cs.head?.any Char.isAlpha = true ∧ ∀ c ∈ cs, NameChar c

instance : DecidablePred NameChar := fun c =>
  inferInstanceAs (Decidable (c.isAlphanum = true ∨ c = '_'))

-- character by character, and not over the type of all characters
instance : DecidablePred Worded := fun cs =>
  @instDecidableAnd _ _ inferInstance (List.decidableBAll NameChar cs)

/-- A symbol spells a word, character by character; for an underscore of the word anything
    may stand that identifiers cannot hold. -/
def ComesOutAs (symbol word : String) : Prop :=
  List.Forall₂ (fun c w => c = w ∨ ¬ NameChar c ∧ w = '_') symbol.toList word.toList

section

variable {symbol ident word : String}

theorem identifierChar_eq_iff {c w : Char} (hw : NameChar w) :
    identifierChar c = w ↔ c = w ∨ ¬ NameChar c ∧ w = '_' := by
  by_cases hc : NameChar c
  · rw [identifierChar_of_nameChar hc]
    simp [hc]
  · rw [identifierChar_of_not hc]
    constructor
    · intro h
      exact .inr ⟨hc, h.symm⟩
    · rintro (rfl | ⟨-, rfl⟩)
      · exact absurd hw hc
      · rfl

theorem map_identifierChar_eq_iff {ws : List Char} (hws : ∀ w ∈ ws, NameChar w) :
    ∀ {cs : List Char}, cs.map identifierChar = ws ↔
      List.Forall₂ (fun c w => c = w ∨ ¬ NameChar c ∧ w = '_') cs ws := by
  induction ws with
  | nil =>
    intro cs
    rw [List.map_eq_nil_iff, List.forall₂_nil_right_iff]
  | cons w ws ih =>
    intro cs
    obtain ⟨hw, hws⟩ := List.forall_mem_cons.1 hws
    cases cs with
    | nil => simp
    | cons c cs =>
      rw [List.map_cons, List.cons.injEq, identifierChar_eq_iff hw, ih hws, List.forall₂_cons]

/-- An identifier is a word exactly if its symbol spells it: words start with a letter, so
    nothing was put in front. -/
theorem ident_eq_iff_comesOutAs (h : identifierFor symbol = .ok ident)
    (hword : Worded word.toList) : ident = word ↔ ComesOutAs symbol word := by
  obtain ⟨-, hident⟩ := identifierFor_ok_iff.1 h
  obtain ⟨hfirst, hchars⟩ := hword
  rw [ComesOutAs, ← map_identifierChar_eq_iff hchars, ← String.toList_inj, hident,
    identifierChars_eq]
  cases hdigit : symbol.toList.head?.any Char.isDigit with
  | false =>
    rw [shift, hdigit]
    rfl
  | true =>
    rw [shift, hdigit]
    constructor
    · intro hsame
      rw [← hsame] at hfirst
      cases hfirst
    · intro hsame
      -- the first character of the symbol is a digit and stays one
      rw [← hsame, List.head?_map] at hfirst
      cases hhead : symbol.toList.head? with
      | none =>
        rw [hhead] at hdigit
        cases hdigit
      | some c =>
        rw [hhead] at hfirst hdigit
        have hletter : (identifierChar c).isAlpha = true := hfirst
        have hstill : (identifierChar c).isDigit = true := (isDigit_identifierChar c).trans hdigit
        rw [not_isDigit_of_starts (.inl hletter)] at hstill
        cases hstill

theorem reservedWords_letters :
    ∀ word ∈ reservedWords, Worded word.toList ∧ '_' ∉ word.toList := by
  decide

theorem runtimeNames_worded : ∀ word ∈ runtimeNames, Worded word.toList := by
  decide

/-- Only reserved words come out as reserved words, since these hold no underscore. -/
theorem symbol_reserved (h : identifierFor symbol = .ok ident) (hident : ident ∈ reservedWords) :
    symbol ∈ reservedWords := by
  obtain ⟨hworded, hunderscore⟩ := reservedWords_letters ident hident
  have hspelled : symbol.toList.map identifierChar = ident.toList :=
    (map_identifierChar_eq_iff hworded.2).2 ((ident_eq_iff_comesOutAs h hworded).1 rfl)
  have hkept : ∀ c ∈ symbol.toList, identifierChar c = c := by
    intro c hc
    apply identifierChar_of_nameChar
    by_contra hother
    apply hunderscore
    rw [← hspelled, ← identifierChar_of_not hother]
    exact List.mem_map_of_mem hc
  rw [List.map_congr_left hkept, List.map_id'] at hspelled
  rwa [String.toList_inj.1 hspelled]

/-- Only a single character comes out as an underscore alone. -/
theorem symbol_single (h : identifierFor symbol = .ok "_") :
    ∃ c, symbol.toList = [c] ∧ c.isAlphanum = false := by
  have hprojects := projects_of_identifierFor h
  have hlength := hprojects.length
  have hnonempty := toList_ne_nil_of_not_blank (identifierFor_ok_iff.1 h).1
  change 1 = shift symbol.toList + symbol.toList.length at hlength
  match hsymbol : symbol.toList with
  | [] => exact absurd hsymbol hnonempty
  | c :: d :: ds =>
    rw [hsymbol, List.length_cons, List.length_cons] at hlength
    omega
  | [c] =>
    refine ⟨c, rfl, ?_⟩
    rw [← Bool.not_eq_true]
    intro hc
    have hshift : shift symbol.toList = 0 := by
      rw [hsymbol, List.length_singleton] at hlength
      rw [hsymbol]
      omega
    have hkept := hprojects.kept 0 c (by rw [hsymbol]; rfl) (.inl hc)
    rw [hshift] at hkept
    obtain rfl : '_' = c := Option.some.inj hkept
    cases hc

theorem legalName_of_identifierFor (h : identifierFor symbol = .ok ident)
    (hword : symbol ∉ reservedWords)
    (hsingle : ∀ c, symbol.toList = [c] → c.isAlphanum = true) : LegalName ident := by
  refine ⟨shaped_of_identifierFor h, ?_, ?_⟩
  · rintro rfl
    obtain ⟨c, hsymbol, hc⟩ := symbol_single h
    rw [hsingle c hsymbol] at hc
    cases hc
  · intro hident
    exact hword (symbol_reserved h hident)

end

/-! ### Captured calls -/

/-- A statement calls `callee` where a name that is spelled like it is known: a name that
    was known before the statements, or one that is bound further up. -/
def Captures : (known : List String) → List Statement → (callee : String) → Prop
  | _, [], _ => False
  | known, s :: ss, callee =>
    s.call.callee = callee ∧ callee ∈ known ∨ Captures (known ++ s.bound?.toList) ss callee

/-- What a body calls by a name that one of its parameters or earlier names has. -/
def Bridge.Captures (b : Bridge) (callee : String) : Prop :=
  NativeBridge.Captures b.paramNames b.body callee

/-- **All names of a bridge mean what they were meant for.** -/
structure Bridge.Hygienic (b : Bridge) : Prop where
  legal : LegalName b.ident
  unshadowed : b.ident ∉ runtimeNames
  uncaptured : ∀ callee, ¬ b.Captures callee

/-- The names that are known when the argument of index `i` is converted, and for the arity
    in the place of `i`, when the implementation is called. -/
inductive KnownAt (r : TypeRegistry) (pair : FunctionPair) (i : Nat) : String → Prop
  | env : KnownAt r pair i "env"
  | caller : KnownAt r pair i "clazz"
  | param {j : Nat} (lt : j < pair.native.arity) : KnownAt r pair i (paramName j)
  | converted {j : Nat} (earlier : j < i) {type rule : String} {d : TypeDescriptor}
      (actual : pair.actual.params[j]? = some type) (found : r.find? type = some d)
      (ruled : d.fromNative = some rule) : KnownAt r pair i (convertedName (paramName j))

/-- The paths that a catalog gives for a call at whose place they are known as names. -/
inductive Misnamed (r : TypeRegistry) (implementation : String) (pair : FunctionPair) :
    String → Prop
  | argument {i : Nat} {type path : String} {d : TypeDescriptor}
      (actual : pair.actual.params[i]? = some type) (found : r.find? type = some d)
      (rule : d.fromNative = some path) (known : KnownAt r pair i path) :
      Misnamed r implementation pair path
  | implementation
      (known : KnownAt r pair pair.native.arity (calleePath implementation pair.actual.name)) :
      Misnamed r implementation pair (calleePath implementation pair.actual.name)
  | result {path : String} {d : TypeDescriptor} (found : r.find? pair.actual.returns = some d)
      (rule : d.toNative = some path)
      (known : path = "callResult" ∨ KnownAt r pair pair.native.arity path) :
      Misnamed r implementation pair path

section

variable {known : List String} {ss ts : List Statement} {callee : String}

/-- What is captured is a name that is known somewhere. -/
theorem mem_of_captures (h : Captures known ss callee) : callee ∈ known ++ boundNames ss := by
  induction ss generalizing known with
  | nil => exact h.elim
  | cons s ss ih =>
    rw [boundNames_cons, ← List.append_assoc]
    rcases h with ⟨-, hknown⟩ | hlater
    · exact List.mem_append_left _ (List.mem_append_left _ hknown)
    · exact ih hlater

theorem captures_append_iff : Captures known (ss ++ ts) callee ↔
    Captures known ss callee ∨ Captures (known ++ boundNames ss) ts callee := by
  induction ss generalizing known with
  | nil => simp [Captures, boundNames]
  | cons s ss ih =>
    rw [List.cons_append, Captures, Captures, ih, boundNames_cons, List.append_assoc, or_assoc]

theorem argumentStatements_cons (i : Nat) (d : TypeDescriptor) (ds : List TypeDescriptor) :
    argumentStatements i (d :: ds) =
      argumentStatements i [d] ++ argumentStatements (i + 1) ds := by
  rw [argumentStatements, argumentStatements]
  cases d.fromNative <;> rfl

theorem captures_argumentStatements_singleton (i : Nat) (d : TypeDescriptor) :
    Captures known (argumentStatements i [d]) callee ↔
      d.fromNative = some callee ∧ callee ∈ known := by
  rw [argumentStatements]
  cases d.fromNative with
  | none => simp [argumentStatements, Captures]
  | some rule => simp [argumentStatements, Captures, Statement.call, Call.rule]

/-- The loop calls a rule where the names before it and those of earlier indices are known. -/
theorem captures_argumentStatements_iff {ds : List TypeDescriptor} :
    ∀ {i : Nat} {known : List String}, Captures known (argumentStatements i ds) callee ↔
      ∃ (j : Nat) (d : TypeDescriptor), ds[j]? = some d ∧ d.fromNative = some callee ∧
        callee ∈ known ++ boundNames (argumentStatements i (ds.take j)) := by
  induction ds with
  | nil =>
    intro i known
    simp [argumentStatements, Captures]
  | cons d ds ih =>
    intro i known
    have hnone : known ++ boundNames (argumentStatements i []) = known := List.append_nil known
    rw [argumentStatements_cons, captures_append_iff, captures_argumentStatements_singleton, ih]
    constructor
    · rintro (⟨hrule, hknown⟩ | ⟨j, e, hj, hrule, hknown⟩)
      · refine ⟨0, d, rfl, hrule, ?_⟩
        rwa [List.take_zero, hnone]
      · refine ⟨j + 1, e, hj, hrule, ?_⟩
        rwa [List.take_succ_cons, argumentStatements_cons, boundNames_append,
          ← List.append_assoc]
    · rintro ⟨j, e, hj, hrule, hknown⟩
      cases j with
      | zero =>
        obtain rfl : d = e := Option.some.inj hj
        rw [List.take_zero, hnone] at hknown
        exact .inl ⟨hrule, hknown⟩
      | succ j =>
        rw [List.take_succ_cons, argumentStatements_cons, boundNames_append,
          ← List.append_assoc] at hknown
        exact .inr ⟨j, e, hj, hrule, hknown⟩

/-- What the loop has bound before an index. -/
theorem mem_boundNames_take_iff {ds : List TypeDescriptor} {i : Nat} {name : String} :
    name ∈ boundNames (argumentStatements 0 (ds.take i)) ↔
      ∃ (j : Nat) (d : TypeDescriptor) (rule : String), j < i ∧ ds[j]? = some d ∧
        d.fromNative = some rule ∧ name = convertedName (paramName j) := by
  rw [boundNames, List.mem_filterMap]
  simp only [mem_argumentStatements_iff, Nat.zero_add]
  constructor
  · rintro ⟨s, ⟨j, d, rule, hj, hrule, rfl⟩, hbound⟩
    rw [List.getElem?_take] at hj
    split at hj
    · rename_i hlt
      exact ⟨j, d, rule, hlt, hj, hrule, (Option.some.inj hbound).symm⟩
    · cases hj
  · rintro ⟨j, d, rule, hlt, hj, hrule, rfl⟩
    refine ⟨_, ⟨j, d, rule, ?_, hrule, rfl⟩, rfl⟩
    rwa [List.getElem?_take_of_lt hlt]

theorem captures_resultStatements_iff (d : TypeDescriptor) :
    Captures known (resultStatements d) callee ↔ d.toNative = some callee ∧ callee ∈ known := by
  rw [resultStatements]
  cases d.toNative with
  | none => simp [Captures]
  | some rule => simp [Captures, Statement.call, Call.rule]

end

section

variable {r : TypeRegistry} {pair : FunctionPair} {ident implementation : String}
  {arguments : List TypeDescriptor} {result : TypeDescriptor} {callee name : String}

/-- The descriptors of a checked pair are those found for its actual types. -/
theorem Checked.getElem?_arguments_iff (h : Checked r pair ident arguments result) {i : Nat}
    {d : TypeDescriptor} : arguments[i]? = some d ↔
      ∃ type, pair.actual.params[i]? = some type ∧ r.find? type = some d := by
  have hfound : pair.actual.params.map r.find? = arguments.map some := by
    rw [← List.forall₂_eq_eq_eq, List.forall₂_map_left_iff, List.forall₂_map_right_iff]
    exact h.forall₂_found
  have hat := congrArg (·[i]?) hfound
  simp only [List.getElem?_map] at hat
  rw [← Option.map_eq_some_iff, hat]
  simp

/-- What is known before the conversion of an index, in the body and in the catalog. -/
theorem Checked.mem_known_iff (h : Checked r pair ident arguments result) (i : Nat) :
    name ∈ "env" :: "clazz" :: (List.range pair.native.arity).map paramName ++
        boundNames (argumentStatements 0 (arguments.take i)) ↔ KnownAt r pair i name := by
  rw [List.mem_append, mem_boundNames_take_iff]
  simp only [h.getElem?_arguments_iff]
  constructor
  · rintro (hname | ⟨j, d, rule, hlt, ⟨type, hactual, hfound⟩, hrule, rfl⟩)
    · rw [List.mem_cons, List.mem_cons, List.mem_map] at hname
      rcases hname with rfl | rfl | ⟨j, hj, rfl⟩
      · exact .env
      · exact .caller
      · exact .param (List.mem_range.1 hj)
    · exact .converted hlt hactual hfound hrule
  · intro hknown
    cases hknown with
    | env => simp
    | caller => simp
    | param lt =>
      left
      exact List.mem_cons_of_mem _ (List.mem_cons_of_mem _
        (List.mem_map_of_mem (List.mem_range.2 lt)))
    | converted earlier actual found ruled =>
      exact .inr ⟨_, _, _, earlier, ⟨_, actual, found⟩, ruled, rfl⟩

/-- All names in a body are plain. -/
theorem Checked.plainName (h : Checked r pair ident arguments result)
    (hname : name ∈ (draftedBridge ident implementation pair arguments result).names) :
    PlainName name := by
  have hroles :=
    names_draftedBridge_sublist ident implementation pair arguments result h.length_arguments
  obtain ⟨role, -, rfl⟩ := List.mem_map.1 (hroles.subset hname)
  exact role.plainName

/-- The names of the runtime hold an underscore, which no name in a body does. -/
theorem PlainName.not_runtime (h : PlainName name) : name ∉ runtimeNames := by
  have hunderscore : ∀ word ∈ runtimeNames, '_' ∈ word.toList := by
    decide
  intro hname
  have hletter := h.alphanumeric '_' (hunderscore name hname)
  cases hletter

/-- **Which calls are captured**: those for which the catalog gives a path that is known as
    a name where they stand. -/
theorem Checked.captures_iff (h : Checked r pair ident arguments result) :
    (draftedBridge ident implementation pair arguments result).Captures callee ↔
      Misnamed r implementation pair callee := by
  have hattach : attachStatement.bound?.toList = [] := rfl
  have hall : arguments.take pair.native.arity = arguments :=
    List.take_of_length_le (Nat.le_of_eq h.length_arguments)
  have hloop : _ ↔ KnownAt r pair pair.native.arity callee := h.mem_known_iff pair.native.arity
  rw [hall] at hloop
  rw [Bridge.Captures, paramNames_draftedBridge, body_draftedBridge, Captures, hattach,
    List.append_nil, captures_append_iff, captures_argumentStatements_iff, Captures,
    captures_resultStatements_iff, hloop]
  simp only [h.mem_known_iff]
  constructor
  · rintro (⟨rfl, hparam⟩ | ⟨i, d, hd, hrule, hknown⟩ | ⟨rfl, hknown⟩ | ⟨hrule, hknown⟩)
    · have hname : attachPath ∈
          (draftedBridge ident implementation pair arguments result).names := by
        rw [Bridge.names, paramNames_draftedBridge]
        exact List.mem_append_left _ hparam
      exact absurd List.mem_cons_self (h.plainName hname).not_runtime
    · obtain ⟨type, hactual, hfound⟩ := h.getElem?_arguments_iff.1 hd
      exact .argument hactual hfound hrule hknown
    · exact .implementation hknown
    · refine .result h.result.found hrule ?_
      rcases List.mem_append.1 hknown with hbefore | hresult
      · exact .inr (hloop.1 hbefore)
      · exact .inl (List.mem_singleton.1 hresult)
  · intro hmisnamed
    cases hmisnamed with
    | argument actual found rule known =>
      exact .inr (.inl ⟨_, _, h.getElem?_arguments_iff.2 ⟨_, actual, found⟩, rule, known⟩)
    | implementation known => exact .inr (.inr (.inl ⟨rfl, known⟩))
    | result found rule known =>
      cases found.symm.trans h.result.found
      refine .inr (.inr (.inr ⟨rule, ?_⟩))
      rcases known with hresult | known
      · exact List.mem_append_right _ (List.mem_singleton.2 hresult)
      · exact List.mem_append_left _ (hloop.2 known)

end

/-! ### Units -/

/-- **What the names of a bridge mean.**  Its identifier is shaped like one, and is a legal
    name unless the symbol is itself a reserved word, or a single character that is no ASCII
    letter or digit.  It has the name of a runtime function exactly if the symbol spells
    that name.  A call is captured exactly if the catalog misnames it; a qualified path never
    is, nor a call of the runtime. -/
structure Naming (r : TypeRegistry) (implementation : String) (pair : FunctionPair)
    (b : Bridge) : Prop where
  shaped : Shaped b.ident.toList
  legal : pair.symbol ∉ reservedWords →
    (∀ c, pair.symbol.toList = [c] → c.isAlphanum = true) → LegalName b.ident
  shadows : ∀ word ∈ runtimeNames, b.ident = word ↔ ComesOutAs pair.symbol word
  captures : ∀ callee, b.Captures callee ↔ Misnamed r implementation pair callee
  unqualified : ∀ callee, b.Captures callee → ':' ∉ callee.toList
  runtime : ∀ word ∈ runtimeNames, word ∉ b.names

theorem naming_of_bridgeOf {r : TypeRegistry} {implementation : String} {pair : FunctionPair}
    {b : Bridge} (hb : bridgeOf r implementation pair = .ok b) :
    Naming r implementation pair b := by
  have hident := identifierFor_of_bridgeOf hb
  obtain ⟨ident, arguments, result, hchecked, rfl⟩ := bridgeOf_ok_iff.1 hb
  constructor
  case shaped => exact shaped_of_identifierFor hident
  case legal => exact legalName_of_identifierFor hident
  case shadows =>
    intro word hword
    exact ident_eq_iff_comesOutAs hident (runtimeNames_worded word hword)
  case captures =>
    intro callee
    exact hchecked.captures_iff
  case unqualified =>
    intro callee hcallee hcolon
    have hplain := hchecked.plainName (mem_of_captures hcallee)
    cases hplain.alphanumeric ':' hcolon
  case runtime =>
    intro word hword hname
    exact (hchecked.plainName hname).not_runtime hword

/-- **The names of a unit**, bridge by bridge in the order of the active functions, for
    every catalog that has one. -/
theorem unit_naming {c : Catalog} {u : BridgeUnit} (hunit : c.unit.result = .ok u) :
    ∃ r, c.registry = .ok r ∧
      List.Forall₂ (fun f b => Naming r c.output.implementation f.pair b) c.active u.bridges := by
  obtain ⟨r, hr⟩ := Catalog.registry_of_unit hunit
  have hall := Catalog.bridges_of_active hr hunit
  exact ⟨r, hr, hall.imp fun f b hb => naming_of_bridgeOf hb⟩

namespace Demo

/-- Two functions without parameters or results: the symbol of the first is a reserved word,
    that of the second the name of a runtime function, and its implementation is called by
    the name of a parameter. -/
def strayText : String := "functions = [['fn', ['f'], ['f']], ['init_platform', ['f'], ['env']]]"

def strayCatalog : Catalog :=
  ⟨.standard, [],
    [⟨"fn", ⟨"f", [], unitType⟩, ⟨"f", [], unitType⟩, true, false⟩,
     ⟨"init_platform", ⟨"f", [], unitType⟩, ⟨"env", [], unitType⟩, true, false⟩]⟩

/-- The bridge of such a function. -/
def strayBridge (symbol name : String) : Bridge :=
  ⟨symbol, symbol, [envParameter, callerParameter], unitType, [attachStatement],
    ⟨"env", "()", [.bind "callResult" ⟨name, [], true⟩], "callResult"⟩⟩

def strayUnit : BridgeUnit :=
  .ofBridges strayCatalog.renderOptions [strayBridge "fn" "f", strayBridge "init_platform" "env"]

theorem strayCatalog_unit : strayCatalog.unit.result = .ok strayUnit := by
  decide +kernel

/-- The text is read and accepted, with an identifier that is no legal name, one that stands
    in front of a function of the runtime, and a call that a parameter captures. -/
theorem strayText_accepted :
    Catalog.parse strayText = .ok strayCatalog ∧ strayCatalog.unit.result = .ok strayUnit ∧
      (∃ b ∈ strayUnit.bridges, ¬ LegalName b.ident) ∧
      (∃ b ∈ strayUnit.bridges, b.ident ∈ runtimeNames) ∧
      (∃ b ∈ strayUnit.bridges, ∃ callee, b.Captures callee) ∧
      ¬ ∀ b ∈ strayUnit.bridges, b.Hygienic := by
  have hread : Catalog.parse strayText = .ok strayCatalog := by
    decide +kernel
  have hfirst : strayBridge "fn" "f" ∈ strayUnit.bridges := List.mem_cons_self
  have hsecond : strayBridge "init_platform" "env" ∈ strayUnit.bridges :=
    List.mem_cons_of_mem _ List.mem_cons_self
  have hreserved : ¬ LegalName (strayBridge "fn" "f").ident := by
    intro hlegal
    apply hlegal.notReserved
    decide
  have hcaptured : (strayBridge "init_platform" "env").Captures "env" :=
    .inr (.inl ⟨rfl, List.mem_cons_self⟩)
  refine ⟨hread, strayCatalog_unit, ⟨_, hfirst, hreserved⟩, ⟨_, hsecond, List.mem_cons_self⟩,
    ⟨_, hsecond, "env", hcaptured⟩, ?_⟩
  intro hhygienic
  exact (hhygienic _ hsecond).uncaptured "env" hcaptured

theorem strayUnit_naming :
    strayCatalog.unit.result = .ok strayUnit ∧ ∃ r, strayCatalog.registry = .ok r ∧
      List.Forall₂ (fun f b => Naming r "" f.pair b) strayCatalog.active strayUnit.bridges :=
  ⟨strayCatalog_unit, unit_naming strayCatalog_unit⟩

end Demo

end NativeBridge
