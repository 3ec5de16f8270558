/-
  NativeBridge/Proofs/BridgeText.lean
  ===================================
  **The lines of a bridge tell the bridge.**  Types, defaults, paths and the exported
  symbol are free text, and may look like any other piece of a line.  What makes the
  lines readable is what surrounds them: `Bridge.Regular` collects it, and every bridge
  that generation makes is regular.

  Parameters end at the first line that does not start with a blank, and statements at
  the first that has no binding in it.  Within a line, the names are plain and the free
  text is what is left between them, which for a call means: up to its last parenthesis.
-/
import NativeBridge.Bridge.Rendering
import NativeBridge.Proofs.Acceptance
import NativeBridge.Proofs.SymbolLiteral

namespace NativeBridge

/-! ### Regular bridges -/

/-- Bindings of plain names to calls on plain names. -/
inductive Statement.Regular : Statement → Prop
  | bind {name : String} {c : Call} (target : PlainName name)
      (args : ∀ a ∈ c.args, PlainName a) : Regular (.bind name c)

structure Scope.Regular (s : Scope) : Prop where
  env : s.env = envParameter.name
  statements : ∀ st ∈ s.statements, st.Regular
  value : PlainName s.value

/-- What surrounds the free text of a bridge. -/
structure Bridge.Regular (b : Bridge) : Prop where
  ident : OneLine b.ident
  params : ∀ p ∈ b.params, PlainName p.name
  prologue : b.prologue = [attachStatement]
  scope : b.scope.Regular

theorem oneLine_of_identifierFor {symbol ident : String}
    (h : identifierFor symbol = .ok ident) : OneLine ident := by
  have hchar (c : Char) : identifierChar c ≠ '\n' := by
    rw [identifierChar]
    by_cases hc : isIdentifierChar c = true
    · rw [if_pos hc]
      rintro rfl
      exact absurd hc (by decide)
    · rw [if_neg hc]
      decide
  have hchars : ∀ c ∈ symbol.toList.map identifierChar, c ≠ '\n' := by
    intro c hc
    obtain ⟨c', -, rfl⟩ := List.mem_map.1 hc
    exact hchar c'
  rw [identifierFor] at h
  split at h
  · cases h
  · cases h
    intro c hc
    rw [String.toList_ofList, identifierChars] at hc
    cases hmapped : symbol.toList.map identifierChar with
    | nil => rw [hmapped] at hc; cases hc
    | cons first rest =>
      rw [hmapped] at hc hchars
      rw [guardDigit] at hc
      split at hc
      · rcases List.mem_cons.1 hc with rfl | hc
        · decide
        · exact hchars c hc
      · exact hchars c hc

/-- A rule applied to a name of the body. -/
theorem regular_rule (path : String) (target value : Role) :
    Statement.Regular (.bind target.name (.rule path Role.env.name value.name)) := by
  refine .bind target.plainName ?_
  intro a ha
  rcases List.mem_pair.1 ha with rfl | rfl
  · exact Role.env.plainName
  · exact value.plainName

theorem regular_argumentStatements {ds : List TypeDescriptor} :
    ∀ {i : Nat}, ∀ s ∈ argumentStatements i ds, s.Regular := by
  induction ds with
  | nil => intro i s hs; cases hs
  | cons d ds ih =>
    intro i s hs
    rw [argumentStatements] at hs
    cases hrule : d.fromNative with
    | none =>
      rw [hrule] at hs
      exact ih s hs
    | some path =>
      rw [hrule] at hs
      rcases List.mem_cons.1 hs with rfl | hs
      · exact regular_rule path (.convertedParam i) (.param i)
      · exact ih s hs

theorem plainName_argumentNames {ds : List TypeDescriptor} :
    ∀ {i : Nat}, ∀ name ∈ argumentNames i ds, PlainName name := by
  induction ds with
  | nil => intro i name hname; cases hname
  | cons d ds ih =>
    intro i name hname
    rcases List.mem_cons.1 hname with rfl | hname
    · by_cases hconverts : d.convertsArguments = true
      · rw [if_pos hconverts]
        exact (Role.convertedParam i).plainName
      · rw [if_neg hconverts]
        exact (Role.param i).plainName
    · exact ih name hname

theorem regular_resultStatements {d : TypeDescriptor} :
    ∀ s ∈ resultStatements d, s.Regular := by
  intro s hs
  rw [resultStatements] at hs
  cases hrule : d.toNative with
  | none => rw [hrule] at hs; cases hs
  | some path =>
    rw [hrule] at hs
    rw [List.mem_singleton.1 hs]
    exact regular_rule path .convertedResult .result

theorem plainName_resultValue (d : TypeDescriptor) : PlainName (resultValue d) := by
  rw [resultValue]
  by_cases hconverts : d.convertsResults = true
  · rw [if_pos hconverts]
    exact Role.convertedResult.plainName
  · rw [if_neg hconverts]
    exact Role.result.plainName

theorem plainName_bridgeParams {native : Signature} :
    ∀ p ∈ bridgeParams native, PlainName p.name := by
  intro p hp
  have hname : p.name ∈ (parameterRoles native.arity).map Role.name := by
    rw [← names_bridgeParams]
    exact List.mem_map_of_mem hp
  obtain ⟨role, -, hrole⟩ := List.mem_map.1 hname
  rw [← hrole]
  exact role.plainName

/-- Generation makes regular bridges. -/
theorem regular_of_bridgeOf {r : TypeRegistry} {implementation : String}
    {pair : FunctionPair} {b : Bridge} (h : bridgeOf r implementation pair = .ok b) :
    b.Regular := by
  have hident := oneLine_of_identifierFor (identifierFor_of_bridgeOf h)
  obtain ⟨ident, arguments, result, -, rfl⟩ := bridgeOf_ok_iff.1 h
  refine ⟨hident, plainName_bridgeParams, rfl, rfl, ?_, plainName_resultValue result⟩
  intro s hs
  rcases List.mem_append.1 hs with hs | hs
  · exact regular_argumentStatements s hs
  · rcases List.mem_cons.1 hs with rfl | hs
    · refine .bind Role.result.plainName ?_
      exact plainName_argumentNames
    · exact regular_resultStatements s hs

/-! ### Pieces of lines -/

/-- The name of a parameter ends at the colon. -/
theorem parameterLine_injective (p q : Parameter) (hp : PlainName p.name)
    (hq : PlainName q.name) (h : p.line = q.line) : p = q := by
  have hchars : p.name.toList ++ ':' :: ' ' :: (p.type.toList ++ [',']) =
      q.name.toList ++ ':' :: ' ' :: (q.type.toList ++ [',']) := by
    simpa [Parameter.line] using congrArg String.toList h
  obtain ⟨hname, -, hrest⟩ := cut_first (p := (Char.isAlphanum · = true)) (by decide) (by decide)
    hp.alphanumeric hq.alphanumeric hchars
  have htype : p.type.toList = q.type.toList := by simpa using hrest
  exact congrArg₂ Parameter.mk (String.toList_injective hname) (String.toList_injective htype)

theorem returnLine_injective {b b' : Bridge} (h : b.returnLine = b'.returnLine) :
    b.returns = b'.returns := by
  have hchars := congrArg String.toList h
  rw [Bridge.returnLine, Bridge.returnLine, Bridge.returnsNothing, Bridge.returnsNothing] at hchars
  by_cases hunit : b.returns = unitType <;> by_cases hunit' : b'.returns = unitType <;>
    simp [hunit, hunit'] at hchars ⊢
  exact String.toList_injective hchars

/-! ### Calls -/

/-- Arguments as they stand in a call, with a mark before the first and after the last. -/
theorem framed_intercalate (name : String) (names : List String) :
    ' ' :: ((", ".intercalate (name :: names)).toList ++ [',']) =
      ((name :: names).map fun n => ' ' :: n.toList).flatMap (· ++ [',']) := by
  induction names generalizing name with
  | nil => simp
  | cons next names ih =>
    have hrest := ih next
    simp only [String.toList_intercalate, List.map_cons, List.intercalate_cons_cons] at hrest ⊢
    simp only [List.flatMap_cons] at hrest ⊢
    rw [← hrest]
    simp

/-- Characters of the arguments of a call. -/
def IsArgumentChar (c : Char) : Prop := c.isAlphanum = true ∨ c = ',' ∨ c = ' '

theorem isArgumentChar_of_mem {names : List String} (hnames : ∀ n ∈ names, PlainName n) {c : Char}
    (hc : c ∈ (", ".intercalate names).toList) : IsArgumentChar c := by
  cases names with
  | nil => cases hc
  | cons name names =>
    have hframed : c ∈ ' ' :: ((", ".intercalate (name :: names)).toList ++ [',']) :=
      List.mem_cons_of_mem _ (List.mem_append_left _ hc)
    rw [framed_intercalate, List.flatMap_map, List.mem_flatMap] at hframed
    obtain ⟨n, hn, hc⟩ := hframed
    simp only [List.cons_append, List.mem_cons, List.mem_append, List.not_mem_nil, or_false] at hc
    rcases hc with rfl | hc | rfl
    · exact .inr (.inr rfl)
    · exact .inl ((hnames n hn).alphanumeric c hc)
    · exact .inr (.inl rfl)

theorem intercalate_ne_nil {name : String} (hname : PlainName name) (names : List String) :
    (", ".intercalate (name :: names)).toList ≠ [] := by
  cases names with
  | nil => simpa using hname.nonempty
  | cons next names => simp [String.toList_intercalate]

/-- Plain names between commas can be told apart. -/
theorem intercalate_injective {names names' : List String} (hnames : ∀ n ∈ names, PlainName n)
    (hnames' : ∀ n ∈ names', PlainName n)
    (h : (", ".intercalate names).toList = (", ".intercalate names').toList) :
    names = names' := by
  have hparts : ∀ ns : List String, (∀ n ∈ ns, PlainName n) →
      ∀ part ∈ ns.map (fun n => ' ' :: n.toList), ∀ c ∈ part, c ≠ ',' := by
    intro ns hns part hpart c hc
    obtain ⟨n, hn, rfl⟩ := List.mem_map.1 hpart
    rcases List.mem_cons.1 hc with rfl | hc
    · decide
    · rintro rfl
      exact absurd ((hns n hn).alphanumeric _ hc) (by decide)
  cases names with
  | nil =>
    cases names' with
    | nil => rfl
    | cons name' names' =>
      exact absurd h.symm (intercalate_ne_nil (hnames' name' List.mem_cons_self) names')
  | cons name names =>
    cases names' with
    | nil => exact absurd h (intercalate_ne_nil (hnames name List.mem_cons_self) names)
    | cons name' names' =>
      have hframed := congrArg (fun cs => ' ' :: (cs ++ [','])) h
      simp only [framed_intercalate] at hframed
      have hequal := terminated_injective (p := (· ≠ ',')) (fun h => h rfl)
        (hparts _ hnames) (hparts _ hnames') hframed
      refine (List.map_inj_right ?_).1 hequal
      intro n n' hn
      exact String.toList_injective (List.cons.inj hn).2

/-- What follows the arguments of a call. -/
def Call.ending (c : Call) : List Char := ')' :: if c.propagates then ['?'] else []

theorem toList_callText (c : Call) :
    c.text.toList =
      c.callee.toList ++ '(' :: ((", ".intercalate c.args).toList ++ c.ending) := by
  cases hpropagates : c.propagates <;> simp [Call.text, Call.ending, hpropagates]

theorem ending_injective {c c' : Call} (h : c.ending = c'.ending) :
    c.propagates = c'.propagates := by
  cases hpropagates : c.propagates <;> cases hpropagates' : c'.propagates <;>
    simp [Call.ending, hpropagates, hpropagates'] at h ⊢

/-- There is no opening parenthesis behind the one in front of the arguments. -/
theorem ne_parenthesis_of_mem {c : Call} (hargs : ∀ a ∈ c.args, PlainName a) :
    ∀ x ∈ (", ".intercalate c.args).toList ++ c.ending, x ≠ '(' := by
  rintro x hx rfl
  rcases List.mem_append.1 hx with hx | hx
  · have hchar := isArgumentChar_of_mem hargs hx
    simp [IsArgumentChar] at hchar
  · cases hpropagates : c.propagates <;> simp [Call.ending, hpropagates] at hx

theorem callText_injective {c c' : Call} (hargs : ∀ a ∈ c.args, PlainName a)
    (hargs' : ∀ a ∈ c'.args, PlainName a) (h : c.text = c'.text) : c = c' := by
  have hchars := congrArg String.toList h
  rw [toList_callText, toList_callText] at hchars
  obtain ⟨hcallee, -, hinside⟩ := cut_last (p := (· ≠ '(')) (fun h => h rfl) (fun h => h rfl)
    (ne_parenthesis_of_mem hargs) (ne_parenthesis_of_mem hargs') hchars
  obtain ⟨hnames, -, hending⟩ := cut_first (p := IsArgumentChar) (by simp [IsArgumentChar])
    (by simp [IsArgumentChar]) (fun _ => isArgumentChar_of_mem hargs)
    (fun _ => isArgumentChar_of_mem hargs') hinside
  have hequal := intercalate_injective hargs hargs' hnames
  have hpropagates : c.propagates = c'.propagates :=
    ending_injective (congrArg (List.cons ')') hending)
  cases c
  cases c'
  simp only [Call.mk.injEq]
  exact ⟨String.toList_injective hcallee, hequal, hpropagates⟩

/-- The bound name ends at the blank before the equals sign. -/
theorem statementText_injective (s s' : Statement) (hs : s.Regular) (hs' : s'.Regular)
    (h : s.text = s'.text) : s = s' := by
  rcases hs with @⟨name, c, hname, hargs⟩
  rcases hs' with @⟨name', c', hname', hargs'⟩
  have hchars : name.toList ++ ' ' :: '=' :: ' ' :: (c.text.toList ++ [';']) =
      name'.toList ++ ' ' :: '=' :: ' ' :: (c'.text.toList ++ [';']) := by
    simpa [Statement.text] using congrArg String.toList h
  obtain ⟨hequal, -, hrest⟩ := cut_first (p := (Char.isAlphanum · = true)) (by decide) (by decide)
    hname.alphanumeric hname'.alphanumeric hchars
  have htext : c.text = c'.text := by
    apply String.toList_injective
    simpa using hrest
  rw [String.toList_injective hequal, callText_injective hargs hargs' htext]

/-! ### Scopes -/

/-- A statement on a line of its own. -/
def Statement.line (s : Statement) : String := "        " ++ s.text

/-- The line with the value of a scope. -/
def Scope.valueLine (s : Scope) : String := "        Ok(" ++ s.value ++ ")"

theorem scopeLines_eq (s : Scope) :
    s.lines = s.headText :: (s.statements.map Statement.line ++ s.valueLine :: ["    \x7d)"]) := by
  simp only [Scope.lines, List.singleton_append]
  rfl

/-- At the column where a binding starts with an `l`. -/
theorem statementLine_binds {s : Statement} (hs : s.Regular) :
    s.line.toList[8]? = some 'l' := by
  cases hs
  simp [Statement.line, Statement.text]

theorem valueLine_not_binds (s : Scope) : s.valueLine.toList[8]? ≠ some 'l' := by
  simp [Scope.valueLine]

theorem scopeLines_injective {s s' : Scope} (hs : s.Regular) (hs' : s'.Regular)
    (h : s.lines = s'.lines) : s = s' := by
  rw [scopeLines_eq, scopeLines_eq] at h
  obtain ⟨hhead, h⟩ := List.cons.inj h
  obtain ⟨hstatements, hvalue, -⟩ := cut_first (p := fun l : String => l.toList[8]? = some 'l')
    (valueLine_not_binds s) (valueLine_not_binds s')
    (List.forall_mem_map.2 fun st hst => statementLine_binds (hs.statements st hst))
    (List.forall_mem_map.2 fun st hst => statementLine_binds (hs'.statements st hst)) h
  have hdefaults : s.default = s'.default := by
    unfold Scope.headText at hhead
    rw [hs.env, hs'.env] at hhead
    exact (String.append_right_inj _).1 ((String.append_left_inj _).1 hhead)
  have hall : s.statements = s'.statements := by
    refine map_injective_on ?_ hs.statements hs'.statements hstatements
    intro st st' hst hst' hline
    exact statementText_injective st st' hst hst' ((String.append_right_inj _).1 hline)
  have hvalues : s.value = s'.value :=
    (String.append_right_inj _).1 ((String.append_left_inj _).1 hvalue)
  have henvs : s.env = s'.env := hs.env.trans hs'.env.symm
  cases s
  cases s'
  simp only [Scope.mk.injEq]
  exact ⟨henvs, hdefaults, hall, hvalues⟩

/-! ### Whole bridges -/

/-- The line that gives a bridge its identifier. -/
def Bridge.identLine (b : Bridge) : String := "pub extern \"system\" fn " ++ b.ident ++ "("

theorem Bridge.Regular.lines_eq {b : Bridge} (h : b.Regular) :
    b.lines = b.exportLine :: b.identLine :: (b.params.map Parameter.line ++
      b.returnLine :: ("    " ++ attachStatement.text) :: (b.scope.lines ++ ["\x7d"])) := by
  simp only [Bridge.lines, h.prologue, List.map_cons, List.map_nil, List.append_assoc,
    List.cons_append, List.nil_append]
  rfl

theorem parameterLine_indented (p : Parameter) : p.line.toList.head? = some ' ' := by
  simp [Parameter.line]

theorem returnLine_not_indented (b : Bridge) : b.returnLine.toList.head? ≠ some ' ' := by
  by_cases hunit : b.returnsNothing = true <;> simp [Bridge.returnLine, hunit]

/-- **The lines of a regular bridge are those of no other.** -/
theorem lines_injective (b b' : Bridge) (hb : b.Regular) (hb' : b'.Regular)
    (h : b.lines = b'.lines) : b = b' := by
  rw [hb.lines_eq, hb'.lines_eq] at h
  obtain ⟨hexport, h⟩ := List.cons.inj h
  obtain ⟨hident, h⟩ := List.cons.inj h
  obtain ⟨hparams, hreturn, h⟩ := cut_first (p := fun l : String => l.toList.head? = some ' ')
    (returnLine_not_indented b) (returnLine_not_indented b')
    (List.forall_mem_map.2 fun p _ => parameterLine_indented p)
    (List.forall_mem_map.2 fun p _ => parameterLine_indented p) h
  have hidents : b.ident = b'.ident :=
    (String.append_right_inj _).1 ((String.append_left_inj _).1 hident)
  have hexports := exportLine_injective hexport
  have hall : b.params = b'.params :=
    map_injective_on parameterLine_injective hb.params hb'.params hparams
  have hreturns := returnLine_injective hreturn
  have hprologues : b.prologue = b'.prologue := hb.prologue.trans hb'.prologue.symm
  have hscopes : b.scope = b'.scope :=
    scopeLines_injective hb.scope hb'.scope ((List.append_left_inj _).1 (List.cons.inj h).2)
  cases b
  cases b'
  simp only [Bridge.mk.injEq]
  exact ⟨hidents, hexports, hall, hreturns, hprologues, hscopes⟩

/-! ### No line is broken or blank -/

structure Scope.Unbroken (s : Scope) : Prop where
  default : OneLine s.default
  callees : ∀ st ∈ s.statements, OneLine st.call.callee

/-- No piece of free text in a bridge has a line feed. -/
structure Bridge.Unbroken (b : Bridge) : Prop where
  exportName : OneLine b.exportName
  params : ∀ p ∈ b.params, OneLine p.type
  returns : OneLine b.returns
  scope : b.scope.Unbroken

instance (s : Scope) : Decidable s.Unbroken :=
  decidable_of_iff (OneLine s.default ∧ ∀ st ∈ s.statements, OneLine st.call.callee)
    ⟨fun ⟨hdefault, hcallees⟩ => ⟨hdefault, hcallees⟩, fun h => ⟨h.default, h.callees⟩⟩

instance (b : Bridge) : Decidable b.Unbroken :=
  decidable_of_iff (OneLine b.exportName ∧ (∀ p ∈ b.params, OneLine p.type) ∧
      OneLine b.returns ∧ b.scope.Unbroken)
    ⟨fun ⟨hname, hparams, hreturns, hscope⟩ => ⟨hname, hparams, hreturns, hscope⟩,
      fun h => ⟨h.exportName, h.params, h.returns, h.scope⟩⟩

theorem oneLine_escapeSymbol {symbol : String} (h : OneLine symbol) :
    OneLine (escapeSymbol symbol) := by
  intro c hc
  rw [toList_escapeSymbol, List.mem_flatMap] at hc
  obtain ⟨c', hc', hc⟩ := hc
  by_cases hescaped : c' = '\\' ∨ c' = '"'
  · rw [escapeChar, if_pos hescaped] at hc
    rcases List.mem_pair.1 hc with rfl | rfl
    · decide
    · exact h c hc'
  · rw [escapeChar, if_neg hescaped] at hc
    rw [List.mem_singleton.1 hc]
    exact h c' hc'

theorem oneLine_intercalate {names : List String} (hnames : ∀ n ∈ names, PlainName n) :
    OneLine (", ".intercalate names) := by
  rintro c hc rfl
  have hchar := isArgumentChar_of_mem hnames hc
  simp [IsArgumentChar] at hchar

theorem oneLine_callText {c : Call} (hcallee : OneLine c.callee)
    (hargs : ∀ a ∈ c.args, PlainName a) : OneLine c.text := by
  have hmark : OneLine (if c.propagates then "?" else "") := by
    cases c.propagates <;> decide
  unfold Call.text
  exact (((hcallee.append (by decide)).append (oneLine_intercalate hargs)).append
    (by decide)).append hmark

theorem properLine_statement {s : Statement} (hs : s.Regular) (hcallee : OneLine s.call.callee) :
    ProperLine s.line := by
  rcases hs with @⟨name, c, hname, hargs⟩
  have hbinding : OneLine ("let " ++ name ++ " = ") :=
    (OneLine.append (by decide) hname.oneLine).append (by decide)
  have htext := hbinding.append (oneLine_callText hcallee hargs)
  exact OneLine.append_proper (by decide) (htext.append_proper (by decide))

theorem properLine_returnLine {b : Bridge} (h : OneLine b.returns) : ProperLine b.returnLine := by
  unfold Bridge.returnLine
  split
  · decide
  · exact (OneLine.append (by decide) h).append_proper (by decide)

theorem Scope.Regular.properLines {s : Scope} (h : s.Regular) (hunbroken : s.Unbroken) :
    ∀ l ∈ s.lines, ProperLine l := by
  have hhead : ProperLine s.headText := by
    have henv : OneLine s.env := by
      rw [h.env]
      decide
    have hcall := (OneLine.append (s := "    run_with_exception_conversion(") (by decide)
      henv).append (t := ", ") (by decide)
    exact (hcall.append hunbroken.default).append_proper (by decide)
  have hstatements : ∀ st ∈ s.statements, ProperLine st.line := by
    intro st hst
    exact properLine_statement (h.statements st hst) (hunbroken.callees st hst)
  have hvalue : ProperLine s.valueLine :=
    (OneLine.append (by decide) h.value.oneLine).append_proper (by decide)
  have hclose : ∀ l ∈ ["    \x7d)"], ProperLine l := by decide
  rw [scopeLines_eq]
  simp only [List.forall_mem_cons, List.forall_mem_append, List.forall_mem_map]
  exact ⟨hhead, hstatements, hvalue, List.forall_mem_cons.1 hclose⟩

/-- Every line of a bridge ends with something that can be seen. -/
theorem Bridge.Regular.properLines {b : Bridge} (h : b.Regular) (hunbroken : b.Unbroken) :
    ∀ l ∈ b.lines, ProperLine l := by
  have hexport : ProperLine b.exportLine :=
    (OneLine.append (by decide) (oneLine_escapeSymbol hunbroken.exportName)).append_proper
      (by decide)
  have hident : ProperLine b.identLine :=
    (OneLine.append (by decide) h.ident).append_proper (by decide)
  have hparams : ∀ p ∈ b.params, ProperLine p.line := by
    intro p hp
    have hname := (OneLine.append (s := "    ") (by decide) (h.params p hp).oneLine).append
      (t := ": ") (by decide)
    exact (hname.append (hunbroken.params p hp)).append_proper (by decide)
  have hattach : ProperLine ("    " ++ attachStatement.text) := by decide +kernel
  have hclose : ∀ l ∈ ["\x7d"], ProperLine l := by decide
  rw [h.lines_eq]
  simp only [List.forall_mem_cons, List.forall_mem_append, List.forall_mem_map]
  exact ⟨hexport, hident, hparams, properLine_returnLine hunbroken.returns, hattach,
    h.scope.properLines hunbroken.scope, List.forall_mem_cons.1 hclose⟩

end NativeBridge
