/-
  NativeBridge/Proofs/Protocol.lean
  =================================
  **Bridges follow the conversion protocol.**  The protocol is said twice without any
  generated code: `exchange` runs it on the values themselves, and `Transcript` lists
  the three ways it can go.  `execute_eq_exchange` says that a bridge, executed, does
  what `exchange` does, and `exchange_transcript` reads the calls off.

  The argument loop is where names could get mixed up; it keeps `Holds`, and leaves
  everything else as `KeepsOthers` says.
-/
import NativeBridge.Proofs.Acceptance
import NativeBridge.Proofs.Locals
import NativeBridge.Proofs.Registry

namespace NativeBridge

/-! ### The protocol on values -/

section

variable {τ α : Type} (m : Meaning τ α) (env : α)

/-- A value after the rule of its position; without a rule it stays as it is. -/
def convertWith (rule : Option String) (a : α) : Run τ α :=
  match rule with
  | some path => m.call path [env, a]
  | none => .ofOutcome (.done a)

/-- Converts values by increasing index, up to the first that cannot be converted. -/
def convertAll : List (Option String) → List α → Run τ (List α)
  | rule :: rules, a :: as =>
    (convertWith m env rule a).andThen fun c => (convertAll rules as).map (c :: ·)
  | _, _ => .ofOutcome (.done [])

/-- Calls the implementation, which may be one that cannot report a failure. -/
def callImplementation (callee : String) (fallible : Bool) (args : List α) : Run τ α :=
  if fallible then m.call callee args else (m.call callee args).unfailing

/-- Arguments in, the implementation, the result out. -/
def exchange (callee : String) (fallible : Bool) (rules : List (Option String))
    (toNative : Option String) (natives : List α) : Run τ α :=
  (convertAll m env rules natives).andThen fun args =>
    (callImplementation m callee fallible args).andThen (convertWith m env toNative)

end

/-! ### The argument loop -/

section

variable {τ α β : Type} (m : Meaning τ α) (env : α)

/-- Whatever goes on with the names of the arguments after the loop goes on with the
    converted values. -/
theorem executeAll_argumentStatements (k : Assignment α → Run τ β) :
    ∀ (ds : List TypeDescriptor) (natives : List α) (i : Nat) (vars : Assignment α)
      (k' : List α → Run τ β), ds.length = natives.length → Holds vars env natives i →
      (∀ (vars' : Assignment α) (cs : List α), KeepsOthers i vars vars' →
        (argumentNames i ds).map vars' = cs → k vars' = k' cs) →
      (executeAll m (argumentStatements i ds) vars).andThen k =
        (convertAll m env (ds.map (·.fromNative)) natives).andThen k' := by
  intro ds
  induction ds with
  | nil =>
    intro natives i vars k' hlength _ hk
    cases natives with
    | cons a as => cases hlength
    | nil =>
      change (Run.ofOutcome (.done vars)).andThen k = (Run.ofOutcome (.done [])).andThen k'
      rw [Run.ofOutcome_done_andThen, Run.ofOutcome_done_andThen]
      exact hk vars [] (.refl i vars) rfl
  | cons d ds ih =>
    intro natives i vars k' hlength hvars hk
    cases natives with
    | nil => cases hlength
    | cons a as =>
      have hlength' : ds.length = as.length := Nat.succ.inj hlength
      have ha : vars (paramName i) = a := hvars.params 0 a rfl
      rw [List.map_cons, convertAll, argumentStatements]
      cases hrule : d.fromNative with
      | none =>
        rw [convertWith, Run.ofOutcome_done_andThen, Run.map_andThen]
        apply ih as (i + 1) vars (fun cs => k' (a :: cs)) hlength' hvars.tail
        intro vars' cs hkept hcs
        apply hk vars' (a :: cs) hkept.of_succ
        have hpass : vars' (paramName i) = a := (hkept.param i).trans ha
        simp only [argumentNames, TypeDescriptor.convertsArguments, hrule, Option.isSome_none,
          Bool.false_eq_true, if_false, List.map_cons, hpass, hcs]
      | some path =>
        let bound (c : α) : Assignment α := vars.set (convertedName (paramName i)) c
        have hstep : (executeAll m (.bind (convertedName (paramName i))
              (.rule path envParameter.name (paramName i)) :: argumentStatements (i + 1) ds)
              vars) =
            (m.call path [env, a]).andThen fun c =>
              executeAll m (argumentStatements (i + 1) ds) (bound c) := by
          rw [executeAll, Statement.execute, Run.map_andThen, Call.execute, Call.rule]
          simp only [List.map_cons, List.map_nil, hvars.env, ha, if_true, bound]
        rw [hstep, convertWith, Run.andThen_assoc, Run.andThen_assoc]
        congr 1
        funext c
        rw [Run.map_andThen]
        apply ih as (i + 1) (bound c) (fun cs => k' (c :: cs)) hlength'
          (hvars.set_convertedName i c).tail
        intro vars' cs hkept hcs
        apply hk vars' (c :: cs) hkept.of_set
        -- the name of this index is bound once: later ones have other indices
        have hconverted : vars' (convertedName (paramName i)) = c :=
          hkept.converted.trans (Assignment.set_same vars _ c)
        simp only [argumentNames, TypeDescriptor.convertsArguments, hrule, Option.isSome_some,
          if_true, List.map_cons, hconverted, hcs]

end

/-! ### The whole bridge -/

section

variable {τ α : Type} (m : Meaning τ α) {env : α}

theorem executeAll_resultStatements (result : TypeDescriptor) (vars : Assignment α) (v : α)
    (henv : vars envParameter.name = env) :
    (executeAll m (resultStatements result) (vars.set resultName v)).map
        (fun vars' => vars' (resultValue result)) =
      convertWith m env result.toNative v := by
  cases hrule : result.toNative with
  | none =>
    simp only [resultStatements, resultValue, TypeDescriptor.convertsResults, hrule,
      Option.isSome_none, Bool.false_eq_true, if_false]
    change Run.ofOutcome (.done (vars.set resultName v resultName)) = _
    rw [Assignment.set_same]
    rfl
  | some path =>
    have henv' : vars.set resultName v envParameter.name = env := by
      rw [Assignment.set_other vars v env_ne_resultName]
      exact henv
    simp only [resultStatements, resultValue, TypeDescriptor.convertsResults, hrule,
      Option.isSome_some, if_true]
    have hlast (c : α) :
        (executeAll m [] ((vars.set resultName v).set (convertedName resultName) c)).map
          (fun vars' => vars' (convertedName resultName)) = .ofOutcome (.done c) := by
      change Run.ofOutcome (.done ((vars.set resultName v).set _ c _)) = _
      rw [Assignment.set_same]
    rw [executeAll, Statement.execute, Run.map_andThen, Run.andThen_map, Call.execute, Call.rule]
    simp only [List.map_cons, List.map_nil, henv', Assignment.set_same, if_true, hlast,
      Run.andThen_done, convertWith]

theorem map_scopeStatements (implementation : String) (pair : FunctionPair)
    (arguments : List TypeDescriptor) (result : TypeDescriptor) (natives : List α)
    (vars : Assignment α) (hlength : arguments.length = natives.length)
    (hvars : Holds vars env natives 0) :
    (executeAll m (scopeStatements implementation pair arguments result) vars).map
        (fun vars' => vars' (resultValue result)) =
      exchange m env (calleePath implementation pair.actual.name) pair.fallible
        (arguments.map (·.fromNative)) result.toNative natives := by
  rw [scopeStatements, executeAll_append, Run.andThen_map, exchange]
  apply executeAll_argumentStatements m env _ arguments natives 0 vars _ hlength hvars
  intro vars' cs hkept hcs
  have henv : vars' envParameter.name = env := hkept.env.trans hvars.env
  rw [executeAll, Statement.execute, Run.map_andThen, Run.andThen_map, Call.execute]
  simp only [hcs, executeAll_resultStatements m result vars' _ henv]
  rfl

theorem execute_scope (ident implementation : String) (pair : FunctionPair)
    (arguments : List TypeDescriptor) (result : TypeDescriptor) (natives : List α)
    (vars : Assignment α) (hlength : arguments.length = natives.length)
    (hvars : Holds vars env natives 0) :
    (draftedBridge ident implementation pair arguments result).scope.execute m vars =
      (exchange m env (calleePath implementation pair.actual.name) pair.fallible
        (arguments.map (·.fromNative)) result.toNative natives).contained
        (m.handle env) (m.constant result.default) := by
  rw [← map_scopeStatements m implementation pair arguments result natives vars hlength hvars]
  change Run.contained (m.handle (vars envParameter.name)) _ _ = _
  rw [hvars.env]
  rfl

/-- **A bridge does what the protocol says**: it attaches the thread, and then the
    exchange runs in the containment scope of the default of the result. -/
theorem execute_eq_exchange {r : TypeRegistry} {pair : FunctionPair} {ident : String}
    {arguments : List TypeDescriptor} {result : TypeDescriptor} (implementation : String)
    (h : Checked r pair ident arguments result) (outer : Assignment α) (env caller : α)
    {natives : List α} (hlength : natives.length = pair.native.arity) :
    (draftedBridge ident implementation pair arguments result).execute m outer
        (env :: caller :: natives) =
      (m.call attachPath []).unfailing.andThen fun _ =>
        (exchange m env (calleePath implementation pair.actual.name) pair.fallible
          (arguments.map (·.fromNative)) result.toNative natives).contained
          (m.handle env) (m.constant result.default) := by
  have hvars := holds_setAll outer pair.native env caller hlength
  have harguments : arguments.length = natives.length := by
    rw [h.length_arguments, hlength]
  have hscope := execute_scope m ident implementation pair arguments result natives _
    harguments hvars
  rw [← hscope, Bridge.execute, draftedBridge]
  simp only [executeAll, attachStatement, Statement.execute, Call.execute, List.map_nil,
    Bool.false_eq_true, if_false, Run.map_andThen, Run.andThen_assoc, Run.ofOutcome_done_andThen]

end

/-! ### What is called -/

section

variable {α : Type} (reply : String → List α → Outcome α) (env : α)

/-- The call that a value needs: its rule, on the environment and the value. -/
def ruleCalls (rule : Option String) (a : α) : List (PathCall α) :=
  match rule with
  | some path => [⟨path, [env, a]⟩]
  | none => []

/-- What becomes of a value. -/
def ruleAnswer (rule : Option String) (a : α) : Outcome α :=
  match rule with
  | some path => reply path [env, a]
  | none => .done a

/-- What the implementation answers; if it is infallible, a failure is a panic. -/
def implementationAnswer (callee : String) (fallible : Bool) (args : List α) : Outcome α :=
  match reply callee args, fallible with
  | .failed chain, false => .panicked (.made (chainText chain))
  | o, _ => o

/-- The ways through the scope of a bridge: the calls made in it, and how it ends. -/
inductive Transcript (callee : String) (fallible : Bool) (rules : List (Option String))
    (toNative : Option String) (natives : List α) : List (PathCall α) → Outcome α → Prop
  /-- An argument cannot be converted, and nothing behind it is tried. -/
  | refused {cs : List α} {o : Outcome α} {rest : List (Outcome α)}
      (answers : rules.zipWith (ruleAnswer reply env) natives = cs.map .done ++ o :: rest)
      (stops : ∀ a, o ≠ .done a) :
      Transcript callee fallible rules toNative natives
        ((rules.zipWith (ruleCalls env) natives).take (cs.length + 1)).flatten o
  /-- All arguments are converted, and the implementation does not succeed. -/
  | stopped {cs : List α} {o : Outcome α}
      (answers : rules.zipWith (ruleAnswer reply env) natives = cs.map .done)
      (answer : implementationAnswer reply callee fallible cs = o) (stops : ∀ a, o ≠ .done a) :
      Transcript callee fallible rules toNative natives
        ((rules.zipWith (ruleCalls env) natives).flatten ++ [⟨callee, cs⟩]) o
  /-- The implementation succeeds, and its result meets its own rule. -/
  | returned {cs : List α} {v : α}
      (answers : rules.zipWith (ruleAnswer reply env) natives = cs.map .done)
      (answer : implementationAnswer reply callee fallible cs = .done v) :
      Transcript callee fallible rules toNative natives
        ((rules.zipWith (ruleCalls env) natives).flatten ++ ⟨callee, cs⟩ ::
          ruleCalls env toNative v) (ruleAnswer reply env toNative v)

/-- Answers are all values, or there is a first that is none. -/
theorem done_or_stops (os : List (Outcome α)) :
    (∃ cs : List α, os = cs.map .done) ∨
      ∃ (cs : List α) (o : Outcome α) (rest : List (Outcome α)),
        os = cs.map .done ++ o :: rest ∧ ∀ a : α, o ≠ .done a := by
  induction os with
  | nil => exact .inl ⟨[], rfl⟩
  | cons o os ih =>
    cases o with
    | done c =>
      rcases ih with ⟨cs, rfl⟩ | ⟨cs, o, rest, rfl, hstops⟩
      · exact .inl ⟨c :: cs, rfl⟩
      · exact .inr ⟨c :: cs, o, rest, rfl, hstops⟩
    | failed chain => exact .inr ⟨[], .failed chain, os, rfl, by simp⟩
    | panicked payload => exact .inr ⟨[], .panicked payload, os, rfl, by simp⟩

variable (constant : String → α) (handle : α → EnvHandle)

theorem convertWith_recorded (rule : Option String) (a : α) :
    convertWith (.recorded reply constant handle) env rule a =
      ⟨ruleCalls env rule a, [], ruleAnswer reply env rule a⟩ := by
  cases rule <;> rfl

theorem callImplementation_recorded (callee : String) (fallible : Bool) (args : List α) :
    callImplementation (.recorded reply constant handle) callee fallible args =
      ⟨[⟨callee, args⟩], [], implementationAnswer reply callee fallible args⟩ := by
  cases hreply : reply callee args <;> cases fallible <;>
    simp [callImplementation, Meaning.recorded, implementationAnswer, Run.unfailing, hreply]

theorem convertAll_done {rules : List (Option String)} :
    ∀ {natives cs : List α}, rules.zipWith (ruleAnswer reply env) natives = cs.map .done →
      convertAll (.recorded reply constant handle) env rules natives =
        ⟨(rules.zipWith (ruleCalls env) natives).flatten, [], .done cs⟩ := by
  induction rules with
  | nil =>
    intro natives cs h
    cases cs with
    | nil => rfl
    | cons c cs => cases h
  | cons rule rules ih =>
    intro natives cs h
    cases natives with
    | nil =>
      cases cs with
      | nil => rfl
      | cons c cs => cases h
    | cons a as =>
      cases cs with
      | nil => cases h
      | cons c cs =>
        obtain ⟨hfirst, hrest⟩ := List.cons.inj h
        rw [convertAll, convertWith_recorded, ih hrest, hfirst]
        simp [Run.andThen, Run.map, Outcome.map]

theorem convertAll_stops {rules : List (Option String)} {o : Outcome α}
    {rest : List (Outcome α)} (hstops : ∀ a, o ≠ .done a) :
    ∀ {natives cs : List α},
      rules.zipWith (ruleAnswer reply env) natives = cs.map .done ++ o :: rest →
      convertAll (.recorded reply constant handle) env rules natives =
        ⟨((rules.zipWith (ruleCalls env) natives).take (cs.length + 1)).flatten, [],
          o.map fun _ => []⟩ := by
  induction rules with
  | nil =>
    intro natives cs h
    cases cs <;> cases h
  | cons rule rules ih =>
    intro natives cs h
    cases natives with
    | nil => cases cs <;> cases h
    | cons a as =>
      cases cs with
      | nil =>
        obtain ⟨hfirst, -⟩ := List.cons.inj h
        rw [convertAll, convertWith_recorded, hfirst]
        cases o with
        | done c => exact absurd rfl (hstops c)
        | failed chain => simp [Run.andThen, Outcome.map]
        | panicked payload => simp [Run.andThen, Outcome.map]
      | cons c cs =>
        obtain ⟨hfirst, hrest⟩ := List.cons.inj h
        rw [convertAll, convertWith_recorded, ih hrest, hfirst]
        cases o with
        | done c => exact absurd rfl (hstops c)
        | failed chain => simp [Run.andThen, Run.map, Outcome.map]
        | panicked payload => simp [Run.andThen, Run.map, Outcome.map]

/-- What does not succeed is not gone on with. -/
theorem andThen_of_stops {β : Type} {calls : List (PathCall α)} {o : Outcome α}
    (hstops : ∀ a, o ≠ .done a) (f : α → β) (k : β → Run (PathCall α) α) :
    (⟨calls, [], o.map f⟩ : Run (PathCall α) β).andThen k = ⟨calls, [], o⟩ := by
  cases o with
  | done a => exact absurd rfl (hstops a)
  | failed chain => rfl
  | panicked payload => rfl

/-- An exchange goes in one of the three ways. -/
theorem exchange_transcript (callee : String) (fallible : Bool) (rules : List (Option String))
    (toNative : Option String) (natives : List α) :
    ∃ calls o, Transcript reply env callee fallible rules toNative natives calls o ∧
      exchange (.recorded reply constant handle) env callee fallible rules toNative natives =
        ⟨calls, [], o⟩ := by
  rcases done_or_stops (rules.zipWith (ruleAnswer reply env) natives) with
    ⟨cs, hanswers⟩ | ⟨cs, o, rest, hanswers, hstops⟩
  · have hconverted := convertAll_done reply env constant handle hanswers
    cases hanswer : implementationAnswer reply callee fallible cs with
    | done v =>
      refine ⟨_, _, .returned hanswers hanswer, ?_⟩
      rw [exchange, hconverted]
      simp [Run.andThen, callImplementation_recorded, hanswer, convertWith_recorded]
    | failed chain =>
      refine ⟨_, _, .stopped hanswers hanswer (by simp), ?_⟩
      rw [exchange, hconverted]
      simp [Run.andThen, callImplementation_recorded, hanswer]
    | panicked payload =>
      refine ⟨_, _, .stopped hanswers hanswer (by simp), ?_⟩
      rw [exchange, hconverted]
      simp [Run.andThen, callImplementation_recorded, hanswer]
  · refine ⟨_, _, .refused hanswers hstops, ?_⟩
    rw [exchange, convertAll_stops reply env constant handle hstops hanswers]
    exact andThen_of_stops hstops _ _

end

/-! ### Bridges -/

end NativeBridge
