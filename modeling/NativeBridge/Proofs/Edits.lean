/-
  NativeBridge/Proofs/Edits.lean
  ==============================
  **What a history of edits makes of a draft.**  A draft goes through edits of which any
  may be refused.  What it has become can be read off the history: which parameter came
  first under its name, which result came last, and where the scope was first opened and
  then first closed.  `FollowsHistory` says so, also of the edits that come next.

  `Traced` is the invariant of a history, and `Staged` its part about the scope: it cuts
  the history where the scope was opened and closed.  An edit keeps the invariant
  (`Traced.after`), whether it is refused or not.
-/
import NativeBridge.Proofs.Drafting
import NativeBridge.Proofs.Lines
import Mathlib.Data.List.Induction
import Mathlib.Tactic.ByContra

namespace NativeBridge.Draft

/-! ### Histories -/

/-- The draft after edits of which any may be refused. -/
def afterAll (d : Draft) (es : List Edit) : Draft := es.foldl after d

namespace Edit

def isOpening : Edit → Bool
  | opening _ _ => true
  | _ => false

def isClosing : Edit → Bool
  | closing _ => true
  | _ => false

def parameter? : Edit → Option Parameter
  | parameter name type => some ⟨name, type⟩
  | _ => none

def result? : Edit → Option String
  | returns type => some type
  | _ => none

def statement? : Edit → Option Statement
  | statement s => some s
  | _ => none

/-- What an edit is refused for, if it can be. -/
def flaw? : Edit → Option BridgeFlaw
  | parameter name _ => some (.duplicateParameter name)
  | opening _ _ => some .openedTwice
  | closing _ => some .notOpen
  | _ => none

end Edit

/-- A part of a history in which no scope is opened. -/
def NoOpening (es : List Edit) : Prop := ∀ e ∈ es, e.isOpening = false

/-- A part of a history in which no scope is closed. -/
def NoClosing (es : List Edit) : Prop := ∀ e ∈ es, e.isClosing = false

def parametersOf (es : List Edit) : List Parameter := es.filterMap Edit.parameter?

def resultsOf (es : List Edit) : List String := es.filterMap Edit.result?

def statementsOf (es : List Edit) : List Statement := es.filterMap Edit.statement?

/-- The first parameter of each name, in order. -/
def firstOfEachName : List Parameter → List Parameter
  | [] => []
  | p :: ps => p :: (firstOfEachName ps).filter (·.name ≠ p.name)

/-! ### The statement -/

/-- **A draft follows its history.**  The first group says which edits are refused next,
    and that nothing comes of them; the second what the draft is finished to. -/
structure FollowsHistory (ident exportName : String) (es : List Edit) (d : Draft) : Prop where
  /-- A parameter is refused if its name was given before, -/
  parameter : ∀ name type, (∃ e, d.apply (.parameter name type) = .error e) ↔
    ∃ earlier, Edit.parameter name earlier ∈ es
  /-- an opening if there was one before, -/
  opening : ∀ env default, (∃ e, d.apply (.opening env default) = .error e) ↔
    ∃ env' default', Edit.opening env' default' ∈ es
  /-- a closing unless it is the first one after the first opening, -/
  closing : ∀ value, d.apply (.closing value) = .ok () ↔
    ∃ before env default inside, es = before ++ .opening env default :: inside ∧
      NoOpening before ∧ NoClosing inside
  /-- and nothing else. -/
  refused : ∀ edit e, d.apply edit = .error e →
    ∃ flaw, edit.flaw? = some flaw ∧ e = .malformedBridge ident flaw
  /-- What is refused leaves nothing behind. -/
  unchanged : ∀ edit e, d.apply edit = .error e → d.after edit = d
  /-- It can be finished if there is a closing after the first opening, -/
  finished : (∃ b, d.finish = .ok b) ↔
    ∃ before env default rest value, es = before ++ .opening env default :: rest ∧
      NoOpening before ∧ Edit.closing value ∈ rest
  /-- to the bridge whose scope is what stands between that opening and the first closing
      behind it; all other statements are its prologue. -/
  bridge : ∀ b, d.finish = .ok b ↔
    ∃ before env default inside value rest,
      es = before ++ .opening env default :: (inside ++ .closing value :: rest) ∧
      NoOpening before ∧ NoClosing inside ∧
      b = {
        ident := ident
        exportName := exportName
        params := firstOfEachName (parametersOf es)
        returns := (resultsOf es).getLast?.getD "()"
        prologue := statementsOf before ++ statementsOf rest
        scope := ⟨env, default, statementsOf inside, value⟩ }

/-! ### Parts of a history -/

section

variable {es fs : List Edit} {e : Edit}

theorem noOpening_concat : NoOpening (es ++ [e]) ↔ NoOpening es ∧ e.isOpening = false := by
  simp [NoOpening, or_imp, forall_and]

theorem noClosing_concat : NoClosing (es ++ [e]) ↔ NoClosing es ∧ e.isClosing = false := by
  simp [NoClosing, or_imp, forall_and]

theorem noOpening_iff : NoOpening es ↔ ¬∃ env default, Edit.opening env default ∈ es := by
  constructor
  · rintro h ⟨env, default, hmem⟩
    exact Bool.noConfusion (h _ hmem)
  · intro h e he
    rcases e with _ | _ | _ | ⟨env, default⟩ | _ <;> try rfl
    exact absurd ⟨env, default, he⟩ h

theorem parametersOf_concat_of_none (h : e.parameter? = none) :
    parametersOf (es ++ [e]) = parametersOf es := by
  rw [parametersOf, List.filterMap_append, List.filterMap_cons_none h]
  exact List.append_nil _

theorem resultsOf_concat_of_none (h : e.result? = none) :
    resultsOf (es ++ [e]) = resultsOf es := by
  rw [resultsOf, List.filterMap_append, List.filterMap_cons_none h]
  exact List.append_nil _

theorem statementsOf_append : statementsOf (es ++ fs) = statementsOf es ++ statementsOf fs :=
  List.filterMap_append

theorem statementsOf_cons_of_none (h : e.statement? = none) :
    statementsOf (e :: es) = statementsOf es :=
  List.filterMap_cons_none h

theorem statementsOf_last (es : List Edit) (s : Statement) :
    statementsOf (es ++ [.statement s]) = statementsOf es ++ [s] := by
  rw [statementsOf_append]
  rfl

theorem statementsOf_concat_of_none (h : e.statement? = none) :
    statementsOf (es ++ [e]) = statementsOf es := by
  rw [statementsOf_append, statementsOf_cons_of_none h]
  exact List.append_nil _

end

/-- A parameter more counts if its name is new. -/
theorem firstOfEachName_concat (ps : List Parameter) (p : Parameter) :
    firstOfEachName (ps ++ [p]) =
      if p.name ∈ ps.map (·.name) then firstOfEachName ps else firstOfEachName ps ++ [p] := by
  induction ps with
  | nil => rfl
  | cons q ps ih =>
    rw [List.cons_append, firstOfEachName, firstOfEachName, ih, List.map_cons]
    by_cases hsame : p.name = q.name
    · rw [if_pos (List.mem_cons.2 (.inl hsame))]
      split
      · rfl
      · simp [hsame]
    · by_cases hearlier : p.name ∈ ps.map (·.name)
      · rw [if_pos hearlier, if_pos (List.mem_cons_of_mem _ hearlier)]
      · rw [if_neg hearlier, if_neg (by simpa [hsame] using hearlier)]
        simp [hsame]

/-! ### The invariant -/

/-- How far the scope has come in a history, and what is in the prologue by then. -/
inductive Staged : List Edit → List Statement → Option Opening → Option Scope → Prop
  | missing {es : List Edit} (hes : NoOpening es) : Staged es (statementsOf es) none none
  | opened {before inside : List Edit} (env default : String) (hbefore : NoOpening before)
      (hinside : NoClosing inside) :
      Staged (before ++ .opening env default :: inside) (statementsOf before)
        (some ⟨env, default, statementsOf inside⟩) none
  | closed {before inside : List Edit} (env default value : String) (rest : List Edit)
      (hbefore : NoOpening before) (hinside : NoClosing inside) :
      Staged (before ++ .opening env default :: (inside ++ .closing value :: rest))
        (statementsOf before ++ statementsOf rest) none
        (some ⟨env, default, statementsOf inside, value⟩)

/-- The draft that a history leads to. -/
structure Traced (ident exportName : String) (es : List Edit) (d : Draft) : Prop where
  ident : d.ident = ident
  exportName : d.exportName = exportName
  params : d.params = firstOfEachName (parametersOf es)
  names : ∀ name, name ∈ d.names ↔ name ∈ (parametersOf es).map (·.name)
  returns : d.returns = (resultsOf es).getLast?.getD unitType
  staged : Staged es d.prologue d.opened d.closed

/-! ### One edit -/

section

variable {d : Draft} {e : Edit} {error : BridgeError}

theorem addParameter_taken {name : String} (type : String) (h : name ∈ d.names) :
    d.addParameter name type =
      ⟨.error (.malformedBridge d.ident (.duplicateParameter name)), d⟩ := by
  rw [addParameter, if_pos h, List.insert_of_mem h]
  rfl

theorem withStatement_none (s : Statement) (h : d.opened = none) :
    d.withStatement s = { d with prologue := d.prologue ++ [s] } := by
  rw [withStatement, h]

theorem openScope_missing (env default : String) (hopened : d.opened = none)
    (hclosed : d.closed = none) :
    d.openScope env default = ⟨.ok (), { d with opened := some ⟨env, default, []⟩ }⟩ := by
  rw [openScope, hopened, hclosed]
  rfl

/-- Where there is a scope, no second one is opened. -/
theorem openScope_taken (env default : String) (h : ¬(d.opened = none ∧ d.closed = none)) :
    d.openScope env default = ⟨.error (.malformedBridge d.ident .openedTwice), d⟩ := by
  have hsome : (d.opened.isSome || d.closed.isSome) = true := by
    rcases hopened : d.opened with _ | scope
    · rcases hclosed : d.closed with _ | scope
      · exact absurd ⟨hopened, hclosed⟩ h
      · rfl
    · rfl
  rw [openScope, if_pos hsome]
  rfl

theorem closeScope_opened {scope : Opening} (value : String) (h : d.opened = some scope) :
    d.closeScope value = ⟨.ok (), { d with
      opened := none
      closed := some ⟨scope.env, scope.default, scope.statements, value⟩ }⟩ := by
  rw [closeScope, h]

/-- Where no scope is open, none is taken out of the draft. -/
theorem closeScope_none (value : String) (h : d.opened = none) :
    d.closeScope value = ⟨.error (.malformedBridge d.ident .notOpen), d⟩ := by
  have hleft : { d with opened := none } = d := by rw [← h]
  rw [closeScope, h, hleft]
  rfl

/-- An edit is accepted, or refused for its flaw and without effect. -/
theorem edit_cases (d : Draft) (e : Edit) :
    d.apply e = .ok () ∨
      ∃ flaw, e.flaw? = some flaw ∧ d.edit e = ⟨.error (.malformedBridge d.ident flaw), d⟩ := by
  rcases e with ⟨name, type⟩ | type | s | ⟨env, default⟩ | value
  · by_cases hname : name ∈ d.names
    · exact .inr ⟨_, rfl, addParameter_taken type hname⟩
    · exact .inl (congrArg Edited.answer (addParameter_fresh type hname))
  · exact .inl rfl
  · exact .inl rfl
  · by_cases hmissing : d.opened = none ∧ d.closed = none
    · exact .inl (congrArg Edited.answer (openScope_missing env default hmissing.1 hmissing.2))
    · exact .inr ⟨_, rfl, openScope_taken env default hmissing⟩
  · rcases hopened : d.opened with _ | scope
    · exact .inr ⟨_, rfl, closeScope_none value hopened⟩
    · exact .inl (congrArg Edited.answer (closeScope_opened value hopened))

theorem refused_of_error (h : d.apply e = .error error) :
    d.after e = d ∧ ∃ flaw, e.flaw? = some flaw ∧ error = .malformedBridge d.ident flaw := by
  rcases edit_cases d e with hok | ⟨flaw, hflaw, hedit⟩
  · rw [hok] at h
    cases h
  · rw [apply, hedit] at h
    refine ⟨?_, flaw, hflaw, (Except.error.inj h).symm⟩
    rw [after, hedit]

/-- A name is taken once and for all. -/
theorem addParameter_error_iff {name type : String} :
    (∃ error, d.apply (.parameter name type) = .error error) ↔ name ∈ d.names := by
  rw [apply, edit]
  by_cases h : name ∈ d.names
  · simp [addParameter_taken type h, h]
  · simp [addParameter_fresh type h, h]

theorem openScope_error_iff {env default : String} :
    (∃ error, d.apply (.opening env default) = .error error) ↔
      ¬(d.opened = none ∧ d.closed = none) := by
  rw [apply, edit]
  by_cases h : d.opened = none ∧ d.closed = none
  · simp [openScope_missing env default h.1 h.2, h]
  · simp only [openScope_taken env default h, h]
    simp

theorem closeScope_ok_iff {value : String} :
    d.apply (.closing value) = .ok () ↔ ∃ scope, d.opened = some scope := by
  rw [apply, edit]
  rcases h : d.opened with _ | scope
  · simp [closeScope_none value h]
  · simp [closeScope_opened value h]

end

/-! ### The scope in a history -/

namespace Staged

variable {es : List Edit} {prologue : List Statement} {open? : Option Opening}
  {closed? : Option Scope} {e : Edit}

/-- An edit that has no statement and does not get the scope any further. -/
theorem quiet (h : Staged es prologue open? closed?) (hstatement : e.statement? = none)
    (hmissing : open? = none → closed? = none → e.isOpening = false)
    (hopened : ∀ scope, open? = some scope → e.isClosing = false) :
    Staged (es ++ [e]) prologue open? closed? := by
  rcases h with hes | ⟨env, default, hbefore, hinside⟩ |
    ⟨env, default, value, rest, hbefore, hinside⟩
  · have hstage := Staged.missing (noOpening_concat.2 ⟨hes, hmissing rfl rfl⟩)
    rwa [statementsOf_concat_of_none hstatement] at hstage
  · have hstage := Staged.opened env default hbefore
      (noClosing_concat.2 ⟨hinside, hopened _ rfl⟩)
    rw [statementsOf_concat_of_none hstatement] at hstage
    simpa using hstage
  · have hstage := Staged.closed env default value (rest ++ [e]) hbefore hinside
    rw [statementsOf_concat_of_none hstatement] at hstage
    simpa using hstage

/-- A statement goes into the scope while that is open, -/
theorem inside {scope : Opening} (h : Staged es prologue (some scope) closed?) (s : Statement) :
    Staged (es ++ [.statement s]) prologue
      (some { scope with statements := scope.statements ++ [s] }) closed? := by
  rcases h with _ | ⟨env, default, hbefore, hinside⟩
  have hstage := Staged.opened env default hbefore
    (noClosing_concat.2 ⟨hinside, (rfl : (Edit.statement s).isClosing = false)⟩)
  rw [statementsOf_last] at hstage
  simpa using hstage

/-- and into the prologue otherwise. -/
theorem outside (h : Staged es prologue none closed?) (s : Statement) :
    Staged (es ++ [.statement s]) (prologue ++ [s]) none closed? := by
  rcases h with hes | _ | ⟨env, default, value, rest, hbefore, hinside⟩
  · have hstage := Staged.missing
      (noOpening_concat.2 ⟨hes, (rfl : (Edit.statement s).isOpening = false)⟩)
    rwa [statementsOf_last] at hstage
  · have hstage := Staged.closed env default value (rest ++ [.statement s]) hbefore hinside
    rw [statementsOf_last] at hstage
    simpa using hstage

/-- The first opening opens the scope. -/
theorem opening (h : Staged es prologue none none) (env default : String) :
    Staged (es ++ [.opening env default]) prologue (some ⟨env, default, []⟩) none := by
  rcases h with ⟨hes⟩
  have hinside : NoClosing [] := by simp [NoClosing]
  exact .opened env default hes hinside

/-- The first closing of an open scope closes it. -/
theorem closing {scope : Opening} (h : Staged es prologue (some scope) closed?)
    (value : String) :
    Staged (es ++ [.closing value]) prologue none
      (some ⟨scope.env, scope.default, scope.statements, value⟩) := by
  rcases h with _ | ⟨env, default, hbefore, hinside⟩
  have hstage := Staged.closed env default value [] hbefore hinside
  simpa [statementsOf] using hstage

theorem missing_iff (h : Staged es prologue open? closed?) :
    (open? = none ∧ closed? = none) ↔ NoOpening es := by
  rcases h with hes | ⟨env, default, hbefore, hinside⟩ |
    ⟨env, default, value, rest, hbefore, hinside⟩
  · simp [hes]
  · simp only [reduceCtorEq, false_and, false_iff]
    intro h
    exact Bool.noConfusion (h (.opening env default) (by simp))
  · simp only [reduceCtorEq, and_false, false_iff]
    intro h
    exact Bool.noConfusion (h (.opening env default) (by simp))

/-- Where a history was first opened, and what came behind, is determined. -/
theorem first_opening {before before' rest rest' : List Edit} {env default env' default' : String}
    (h : before ++ .opening env default :: rest = before' ++ .opening env' default' :: rest')
    (hbefore : NoOpening before) (hbefore' : NoOpening before') :
    before = before' ∧ env = env' ∧ default = default' ∧ rest = rest' := by
  obtain ⟨rfl, hopening, rfl⟩ := cut_first (p := fun e : Edit => e.isOpening = false)
    (by simp [Edit.isOpening]) (by simp [Edit.isOpening]) hbefore hbefore' h
  obtain ⟨rfl, rfl⟩ := Edit.opening.inj hopening
  exact ⟨rfl, rfl, rfl, rfl⟩

/-- Where a scope was first closed, likewise. -/
theorem first_closing {inside inside' rest rest' : List Edit} {value value' : String}
    (h : inside ++ .closing value :: rest = inside' ++ .closing value' :: rest')
    (hinside : NoClosing inside) (hinside' : NoClosing inside') :
    inside = inside' ∧ value = value' ∧ rest = rest' := by
  obtain ⟨rfl, hclosing, rfl⟩ := cut_first (p := fun e : Edit => e.isClosing = false)
    (by simp [Edit.isClosing]) (by simp [Edit.isClosing]) hinside hinside' h
  obtain rfl := Edit.closing.inj hclosing
  exact ⟨rfl, rfl, rfl⟩

theorem opened_iff (h : Staged es prologue open? closed?) :
    (∃ scope, open? = some scope) ↔
      ∃ before env default inside, es = before ++ .opening env default :: inside ∧
        NoOpening before ∧ NoClosing inside := by
  rcases h with hes | ⟨env, default, hbefore, hinside⟩ |
    ⟨env, default, value, rest, hbefore, hinside⟩
  · simp only [reduceCtorEq, exists_false, false_iff]
    rintro ⟨before, env, default, inside, rfl, -, -⟩
    exact Bool.noConfusion (hes (.opening env default) (by simp))
  · simp only [Option.some.injEq, exists_eq', true_iff]
    exact ⟨_, env, default, _, rfl, hbefore, hinside⟩
  · simp only [reduceCtorEq, exists_false, false_iff]
    rintro ⟨before', env', default', inside', hcut, hbefore', hinside'⟩
    obtain ⟨-, -, -, rfl⟩ := first_opening hcut hbefore hbefore'
    exact Bool.noConfusion (hinside' (.closing value) (by simp))

theorem closed_iff (h : Staged es prologue open? closed?) :
    (open? = none ∧ ∃ scope, closed? = some scope) ↔
      ∃ before env default rest value, es = before ++ .opening env default :: rest ∧
        NoOpening before ∧ Edit.closing value ∈ rest := by
  rcases h with hes | ⟨env, default, hbefore, hinside⟩ |
    ⟨env, default, value, rest, hbefore, hinside⟩
  · simp only [reduceCtorEq, exists_false, and_false, false_iff]
    rintro ⟨before, env, default, rest, value, rfl, -, -⟩
    exact Bool.noConfusion (hes (.opening env default) (by simp))
  · simp only [reduceCtorEq, false_and, false_iff]
    rintro ⟨before', env', default', rest', value, hcut, hbefore', hvalue⟩
    obtain ⟨-, -, -, rfl⟩ := first_opening hcut hbefore hbefore'
    exact Bool.noConfusion (hinside _ hvalue)
  · simp only [Option.some.injEq, exists_eq', and_self, true_iff]
    exact ⟨_, env, default, _, value, rfl, hbefore, by simp⟩

/-- Once the scope was closed, the history tells it and the prologue. -/
theorem eq_closed {before inside rest : List Edit} {env default value : String}
    (h : Staged es prologue open? closed?)
    (hes : es = before ++ .opening env default :: (inside ++ .closing value :: rest))
    (hbefore : NoOpening before) (hinside : NoClosing inside) :
    prologue = statementsOf before ++ statementsOf rest ∧ open? = none ∧
      closed? = some ⟨env, default, statementsOf inside, value⟩ := by
  rcases h with hnone | ⟨env', default', hbefore', hinside'⟩ |
    ⟨env', default', value', rest', hbefore', hinside'⟩
  · subst hes
    exact Bool.noConfusion (hnone (.opening env default) (by simp))
  · obtain ⟨-, -, -, rfl⟩ := first_opening hes hbefore' hbefore
    exact Bool.noConfusion (hinside' (.closing value) (by simp))
  · obtain ⟨rfl, rfl, rfl, hrest⟩ := first_opening hes hbefore' hbefore
    obtain ⟨rfl, rfl, rfl⟩ := first_closing hrest hinside' hinside
    exact ⟨rfl, rfl, rfl⟩

/-- A scope that is closed was cut out of the history. -/
theorem cut_closed {scope : Scope} (h : Staged es prologue open? (some scope)) :
    ∃ before env default inside value rest,
      es = before ++ .opening env default :: (inside ++ .closing value :: rest) ∧
      NoOpening before ∧ NoClosing inside ∧
      prologue = statementsOf before ++ statementsOf rest ∧
      scope = ⟨env, default, statementsOf inside, value⟩ := by
  rcases h with _ | _ | ⟨env, default, value, rest, hbefore, hinside⟩
  exact ⟨_, env, default, _, value, rest, rfl, hbefore, hinside, rfl, rfl⟩

end Staged

/-! ### Histories of edits -/

/-- A parameter was given under a name. -/
theorem mem_names_parametersOf {name : String} {es : List Edit} :
    name ∈ (parametersOf es).map (·.name) ↔ ∃ type, Edit.parameter name type ∈ es := by
  constructor
  · intro h
    obtain ⟨p, hp, rfl⟩ := List.mem_map.1 h
    obtain ⟨e, he, hparameter⟩ := List.mem_filterMap.1 hp
    rcases e with ⟨name, type⟩ | _ | _ | _ | _
    · obtain rfl := Option.some.inj hparameter
      exact ⟨type, he⟩
    all_goals cases hparameter
  · rintro ⟨type, h⟩
    exact List.mem_map.2 ⟨⟨name, type⟩, List.mem_filterMap.2 ⟨_, h, rfl⟩, rfl⟩

section

variable {ident exportName : String} {es : List Edit} {d : Draft}

theorem traced_start (ident exportName : String) :
    Traced ident exportName [] (start ident exportName) :=
  ⟨rfl, rfl, rfl, fun _ => Iff.rfl, rfl, .missing (by simp [NoOpening])⟩

theorem Traced.parameter (h : Traced ident exportName es d) (name type : String) :
    Traced ident exportName (es ++ [.parameter name type]) (d.after (.parameter name type)) := by
  have hstaged := h.staged.quiet (e := .parameter name type) rfl (fun _ _ => rfl) fun _ _ => rfl
  have hreturns : d.returns = (resultsOf (es ++ [.parameter name type])).getLast?.getD unitType := by
    rw [resultsOf_concat_of_none rfl]
    exact h.returns
  have hparams : parametersOf (es ++ [.parameter name type]) =
      parametersOf es ++ [⟨name, type⟩] :=
    List.filterMap_append
  rw [after, edit]
  by_cases hname : name ∈ d.names
  · have hearlier := (h.names name).1 hname
    rw [addParameter_taken type hname]
    refine ⟨h.ident, h.exportName, ?_, ?_, hreturns, hstaged⟩
    · rw [hparams, firstOfEachName_concat, if_pos hearlier, h.params]
    · intro other
      rw [h.names, hparams, List.map_append, List.mem_append]
      constructor
      · exact .inl
      · rintro (hother | hother)
        · exact hother
        · rwa [List.mem_singleton.1 hother]
  · have hfresh := mt (h.names name).2 hname
    rw [addParameter_fresh type hname]
    refine ⟨h.ident, h.exportName, ?_, ?_, hreturns, hstaged⟩
    · rw [hparams, firstOfEachName_concat, if_neg hfresh, ← h.params]
    · intro other
      rw [List.mem_cons, h.names, hparams, List.map_append, List.mem_append, Or.comm]
      exact or_congr_right List.mem_singleton.symm

/-- What an edit keeps that is neither a parameter nor a result, if the scope goes along. -/
theorem Traced.of_staged (h : Traced ident exportName es d) {e : Edit}
    (hparameter : e.parameter? = none) (hresult : e.result? = none) {prologue : List Statement}
    {open? : Option Opening} {closed? : Option Scope}
    (hstaged : Staged (es ++ [e]) prologue open? closed?) :
    Traced ident exportName (es ++ [e])
      { d with prologue := prologue, opened := open?, closed := closed? } := by
  refine ⟨h.ident, h.exportName, ?_, ?_, ?_, hstaged⟩
  · rw [parametersOf_concat_of_none hparameter]
    exact h.params
  · rw [parametersOf_concat_of_none hparameter]
    exact h.names
  · rw [resultsOf_concat_of_none hresult]
    exact h.returns

theorem Traced.result (h : Traced ident exportName es d) (type : String) :
    Traced ident exportName (es ++ [.returns type]) (d.after (.returns type)) := by
  refine ⟨h.ident, h.exportName, ?_, ?_, ?_, ?_⟩
  · rw [parametersOf_concat_of_none rfl]
    exact h.params
  · rw [parametersOf_concat_of_none rfl]
    exact h.names
  · rw [resultsOf, List.filterMap_append]
    simp [Edit.result?, after, edit, withResult]
  · exact h.staged.quiet rfl (fun _ _ => rfl) fun _ _ => rfl

theorem Traced.statement (h : Traced ident exportName es d) (s : Statement) :
    Traced ident exportName (es ++ [.statement s]) (d.after (.statement s)) := by
  have hstaged := h.staged
  rw [after, edit]
  rcases hopened : d.opened with _ | scope
  · rw [withStatement_none s hopened]
    rw [hopened] at hstaged
    have hstage := hstaged.outside s
    rw [← hopened] at hstage
    exact h.of_staged rfl rfl hstage
  · rw [withStatement_opened s hopened]
    rw [hopened] at hstaged
    exact h.of_staged rfl rfl (hstaged.inside s)

theorem Traced.opening (h : Traced ident exportName es d) (env default : String) :
    Traced ident exportName (es ++ [.opening env default]) (d.after (.opening env default)) := by
  have hstaged := h.staged
  rw [after, edit]
  by_cases hmissing : d.opened = none ∧ d.closed = none
  · rw [openScope_missing env default hmissing.1 hmissing.2]
    rw [hmissing.1, hmissing.2] at hstaged
    have hstage := hstaged.opening env default
    rw [← hmissing.2] at hstage
    exact h.of_staged rfl rfl hstage
  · rw [openScope_taken env default hmissing]
    exact h.of_staged rfl rfl
      (hstaged.quiet rfl (fun ho hc => absurd ⟨ho, hc⟩ hmissing) fun _ _ => rfl)

theorem Traced.closing (h : Traced ident exportName es d) (value : String) :
    Traced ident exportName (es ++ [.closing value]) (d.after (.closing value)) := by
  have hstaged := h.staged
  rw [after, edit]
  rcases hopened : d.opened with _ | scope
  · rw [closeScope_none value hopened]
    exact h.of_staged rfl rfl (hstaged.quiet rfl (fun _ _ => rfl) (by simp [hopened]))
  · rw [closeScope_opened value hopened]
    rw [hopened] at hstaged
    exact h.of_staged rfl rfl (hstaged.closing value)

/-- An edit keeps the invariant, whether it is refused or not. -/
theorem Traced.after (h : Traced ident exportName es d) (e : Edit) :
    Traced ident exportName (es ++ [e]) (d.after e) := by
  rcases e with ⟨name, type⟩ | type | s | ⟨env, default⟩ | value
  · exact h.parameter name type
  · exact h.result type
  · exact h.statement s
  · exact h.opening env default
  · exact h.closing value

theorem traced_afterAll (ident exportName : String) (es : List Edit) :
    Traced ident exportName es ((start ident exportName).afterAll es) := by
  induction es using List.reverseRecOn with
  | nil => exact traced_start ident exportName
  | append_singleton es e ih =>
    rw [afterAll, List.foldl_append]
    exact ih.after e

/-! ### What is read off -/

theorem finish_ok_iff {b : Bridge} :
    d.finish = .ok b ↔ d.opened = none ∧ ∃ scope, d.closed = some scope ∧
      b = ⟨d.ident, d.exportName, d.params, d.returns, d.prologue, scope⟩ := by
  unfold finish
  rcases d.opened with _ | _
  · rcases d.closed with _ | scope
    · simp
    · simp [eq_comm]
  · simp

theorem Traced.followsHistory (h : Traced ident exportName es d) :
    FollowsHistory ident exportName es d where
  parameter name _ := by
    rw [addParameter_error_iff, h.names, mem_names_parametersOf]
  opening env default := by
    rw [openScope_error_iff, h.staged.missing_iff, noOpening_iff, not_not]
  closing value := closeScope_ok_iff.trans h.staged.opened_iff
  refused edit e he := by
    rw [← h.ident]
    exact (refused_of_error he).2
  unchanged edit e he := (refused_of_error he).1
  finished := by
    rw [← h.staged.closed_iff]
    constructor
    · rintro ⟨b, hb⟩
      obtain ⟨hopened, scope, hclosed, -⟩ := finish_ok_iff.1 hb
      exact ⟨hopened, scope, hclosed⟩
    · rintro ⟨hopened, scope, hclosed⟩
      exact ⟨_, finish_ok_iff.2 ⟨hopened, scope, hclosed, rfl⟩⟩
  bridge b := by
    rw [finish_ok_iff, h.ident, h.exportName, h.params, h.returns]
    constructor
    · rintro ⟨-, scope, hclosed, rfl⟩
      have hstaged := h.staged
      rw [hclosed] at hstaged
      obtain ⟨before, env, default, inside, value, rest, hes, hbefore, hinside, hprologue, rfl⟩ :=
        hstaged.cut_closed
      rw [hprologue]
      exact ⟨before, env, default, inside, value, rest, hes, hbefore, hinside, rfl⟩
    · rintro ⟨before, env, default, inside, value, rest, hes, hbefore, hinside, rfl⟩
      obtain ⟨hprologue, hopened, hclosed⟩ := h.staged.eq_closed hes hbefore hinside
      rw [hprologue]
      exact ⟨hopened, _, hclosed, rfl⟩

end

/-- Whatever edits a new draft goes through, it follows its history. -/
theorem edits_followHistory (ident exportName : String) (es : List Edit) :
    FollowsHistory ident exportName es ((start ident exportName).afterAll es) :=
  (traced_afterAll ident exportName es).followsHistory

/-- The second opening and the second closing are refused, and the statement that comes
    after the first closing stands in the prologue. -/
example : ((start "f" "f").afterAll
      [.opening "env" "0", .opening "other" "1", .closing "x", .closing "y",
        .statement attachStatement]).finish =
    .ok ⟨"f", "f", [], "()", [attachStatement], ⟨"env", "0", [], "x"⟩⟩ :=
  rfl

end NativeBridge.Draft
