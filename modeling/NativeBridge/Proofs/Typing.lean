/-
  NativeBridge/Proofs/Typing.lean
  ===============================
  **Bridges are well typed at the boundary.**  A rule of a registered type goes between
  that type and the native type that represents it, and the implementation has the
  type of the actual side of the pair.  Under these types `WellTyped` says that every
  statement of a scope finds its arguments, and that the scope has the type which the
  bridge declares.

  Values that are not converted are the point where this could fail: such a value is
  taken for one of the actual type.  It is one, because a descriptor that represents
  itself is stored under its own name (`TypeRegistry.Built.name_of_find?`).
-/
import NativeBridge.Proofs.Acceptance
import NativeBridge.Proofs.Locals
import NativeBridge.Proofs.Registry

namespace NativeBridge

/-! ### Types of paths -/

/-- The type of a path; a fallible one gives a result or a failure. -/
structure PathType where
  params : List String
  returns : String
  fallible : Bool
  deriving DecidableEq, Repr

/-- The types of the paths that the bridge of a pair may call in its scope. -/
inductive HasPathType (r : TypeRegistry) (implementation : String) (pair : FunctionPair) :
    String → PathType → Prop
  | fromNative {type path : String} {d : TypeDescriptor} (found : r.find? type = some d)
      (rule : d.fromNative = some path) :
      HasPathType r implementation pair path ⟨[envParameter.type, d.native], type, true⟩
  | toNative {type path : String} {d : TypeDescriptor} (found : r.find? type = some d)
      (rule : d.toNative = some path) :
      HasPathType r implementation pair path ⟨[envParameter.type, type], d.native, true⟩
  | implementation :
      HasPathType r implementation pair (calleePath implementation pair.actual.name)
        ⟨pair.actual.params, pair.actual.returns, pair.fallible⟩

/-! ### Typing of statements -/

/-- The types of the names in scope. -/
abbrev TypeContext := Assignment (Option String)

/-- The context in which a body starts: its parameters, with the types written there. -/
def TypeContext.ofParams (ps : List Parameter) : TypeContext :=
  Assignment.setAll (fun _ => none) ps (ps.map fun p => some p.type)

section

variable (r : TypeRegistry) (implementation : String) (pair : FunctionPair)

/-- A call finds arguments of the types that its path takes, and it propagates exactly
    if the path is fallible; `type` is then the type of its value. -/
def CallTyped (context : TypeContext) (c : Call) (type : String) : Prop :=
  ∃ params, HasPathType r implementation pair c.callee ⟨params, type, c.propagates⟩ ∧
    c.args.map context = params.map some

/-- Statements type-check in order; a binding is seen by those behind it. -/
inductive StatementsTyped : TypeContext → List Statement → TypeContext → Prop
  | done (context : TypeContext) : StatementsTyped context [] context
  | run {context after : TypeContext} {c : Call} {ss : List Statement} {type : String}
      (call : CallTyped r implementation pair context c type)
      (rest : StatementsTyped context ss after) : StatementsTyped context (.run c :: ss) after
  | bind {context after : TypeContext} {name : String} {c : Call} {ss : List Statement}
      {type : String} (call : CallTyped r implementation pair context c type)
      (rest : StatementsTyped (context.set name (some type)) ss after) :
      StatementsTyped context (.bind name c :: ss) after

variable {r implementation pair}

theorem StatementsTyped.append {context middle after : TypeContext} {ss ts : List Statement}
    (hss : StatementsTyped r implementation pair context ss middle)
    (hts : StatementsTyped r implementation pair middle ts after) :
    StatementsTyped r implementation pair context (ss ++ ts) after := by
  induction hss with
  | done context => exact hts
  | run call _ ih => exact .run call (ih hts)
  | bind call _ ih => exact .bind call (ih hts)

/-- A rule that is applied to a value of the type it takes. -/
theorem callTyped_rule {context : TypeContext} {path name type result : String}
    (henv : context envParameter.name = some envParameter.type)
    (hname : context name = some type)
    (hpath : HasPathType r implementation pair path
      ⟨[envParameter.type, type], result, true⟩) :
    CallTyped r implementation pair context (.rule path envParameter.name name) result := by
  refine ⟨[envParameter.type, type], hpath, ?_⟩
  simp [Call.rule, henv, hname]

end

/-! ### Arguments and results -/

section

variable {r : TypeRegistry} (implementation : String) (pair : FunctionPair)

/-- A descriptor that represents itself is that of the type it is found under. -/
theorem TypeRegistry.Built.native_eq_actual (hbuilt : r.Built) {native actual : String}
    {d : TypeDescriptor} (hd : Carried r native actual d) (hsame : d.name = d.native) :
    native = actual := by
  rw [← hd.represented, ← hsame, hbuilt.name_of_find? hd.found]

/-- After the argument loop the implementation finds the actual types.  The loop starts
    at any index, with the parameters from there on at hand. -/
theorem argumentStatements_typed (hbuilt : r.Built) {positions : List (String × String)}
    {ds : List TypeDescriptor}
    (hcarried : List.Forall₂ (fun types d => CarriedIn r types.1 types.2 d) positions ds) :
    ∀ (i : Nat) (context : TypeContext),
      Holds context (some envParameter.type) (positions.map fun types => some types.1) i →
      ∃ after, StatementsTyped r implementation pair context (argumentStatements i ds) after ∧
        KeepsOthers i context after ∧
        (argumentNames i ds).map after = positions.map fun types => some types.2 := by
  induction hcarried with
  | nil =>
    intro i context _
    exact ⟨context, .done context, .refl i context, rfl⟩
  | @cons types d positions ds hd _ ih =>
    intro i context hcontext
    have htype : context (paramName i) = some types.1 := hcontext.params 0 _ rfl
    cases hrule : d.fromNative with
    | none =>
      obtain ⟨after, htyped, hkept, hargs⟩ := ih (i + 1) context hcontext.tail
      have hsame : types.1 = types.2 :=
        hbuilt.native_eq_actual hd.toCarried (hd.wayIn.resolve_left fun h => h hrule)
      have hpass : after (paramName i) = some types.2 := by
        rw [hkept.param i, htype, hsame]
      refine ⟨after, ?_, hkept.of_succ, ?_⟩
      · simpa only [argumentStatements, hrule] using htyped
      · simp only [argumentNames, TypeDescriptor.convertsArguments, hrule, Option.isSome_none,
          Bool.false_eq_true, if_false, List.map_cons, hpass, hargs]
    | some path =>
      let bound : TypeContext := context.set (convertedName (paramName i)) (some types.2)
      obtain ⟨after, htyped, hkept, hargs⟩ :=
        ih (i + 1) bound (hcontext.set_convertedName i _).tail
      have hcall : CallTyped r implementation pair context
          (.rule path envParameter.name (paramName i)) types.2 := by
        apply callTyped_rule hcontext.env htype
        rw [← hd.represented]
        exact .fromNative hd.found hrule
      have hconverted : after (convertedName (paramName i)) = some types.2 :=
        hkept.converted.trans (Assignment.set_same context _ _)
      refine ⟨after, ?_, hkept.of_set, ?_⟩
      · simpa only [argumentStatements, hrule] using .bind hcall htyped
      · simp only [argumentNames, TypeDescriptor.convertsArguments, hrule, Option.isSome_some,
          if_true, List.map_cons, hconverted, hargs]

/-- What is returned has the native type. -/
theorem resultStatements_typed (hbuilt : r.Built) {native actual : String}
    {d : TypeDescriptor} (hd : CarriedOut r native actual d) {context : TypeContext}
    (henv : context envParameter.name = some envParameter.type)
    (hresult : context resultName = some actual) :
    ∃ after, StatementsTyped r implementation pair context (resultStatements d) after ∧
      after (resultValue d) = some native := by
  cases hrule : d.toNative with
  | none =>
    have hsame : native = actual :=
      hbuilt.native_eq_actual hd.toCarried (hd.wayOut.resolve_left fun h => h hrule)
    refine ⟨context, ?_, ?_⟩
    · simpa only [resultStatements, hrule] using .done context
    · simp only [resultValue, TypeDescriptor.convertsResults, hrule, Option.isSome_none,
        Bool.false_eq_true, if_false, hresult, hsame]
  | some path =>
    have hcall : CallTyped r implementation pair context
        (.rule path envParameter.name resultName) native := by
      apply callTyped_rule henv hresult
      rw [← hd.represented]
      exact .toNative hd.found hrule
    refine ⟨context.set (convertedName resultName) (some native), ?_, ?_⟩
    · simpa only [resultStatements, hrule] using .bind hcall (.done _)
    · simp only [resultValue, TypeDescriptor.convertsResults, hrule, Option.isSome_some, if_true,
        Assignment.set_same]

end

/-! ### Bridges -/

/-- **A bridge is well typed at the boundary** of its pair: under the types of its
    parameters the scope can be checked statement by statement, the implementation gets
    what it takes, and both what is returned and what stands for a failure are of the
    native type. -/
structure WellTyped (r : TypeRegistry) (implementation : String) (pair : FunctionPair)
    (b : Bridge) : Prop where
  env : b.params[0]? = some ⟨"env", "EnvHandle"⟩
  caller : b.params[1]? = some ⟨"clazz", "ClassHandle"⟩
  natives : ∀ i : Nat, b.params[i + 2]? = pair.native.params[i]?.map (⟨paramName i, ·⟩)
  returns : b.returns = pair.native.returns
  reports : TypeContext.ofParams b.params b.scope.env = some "EnvHandle"
  statements : ∃ (before after : List Statement) (args : List String)
    (converted final : TypeContext),
    b.scope.statements = before ++ .bind resultName
      ⟨calleePath implementation pair.actual.name, args, pair.fallible⟩ :: after ∧
    StatementsTyped r implementation pair (.ofParams b.params) before converted ∧
    args.map converted = pair.actual.params.map some ∧
    StatementsTyped r implementation pair
      (converted.set resultName (some pair.actual.returns)) after final ∧
    StatementsTyped r implementation pair (.ofParams b.params) b.scope.statements final ∧
    final b.scope.value = some pair.native.returns
  default : ∃ d, r.find? pair.actual.returns = some d ∧ d.native = pair.native.returns ∧
    b.scope.default = d.default

/-- The context of a body has what its argument loop needs. -/
theorem holds_ofParams (native : Signature) :
    Holds (TypeContext.ofParams (bridgeParams native)) (some envParameter.type)
      (native.params.map some) 0 := by
  have htypes := congrArg (List.map some) (types_bridgeParams native)
  rw [List.map_map, List.map_cons, List.map_cons] at htypes
  have hparams : TypeContext.ofParams (bridgeParams native) =
      Assignment.setAll (fun _ => none) (bridgeParams native)
        (some envParameter.type :: some callerParameter.type :: native.params.map some) := by
    rw [TypeContext.ofParams, ← htypes]
    rfl
  rw [hparams]
  exact holds_setAll _ native _ _ (List.length_map _)

theorem bridgeOf_wellTyped {r : TypeRegistry} {implementation : String} {pair : FunctionPair}
    {b : Bridge} (hbuilt : r.Built) (hb : bridgeOf r implementation pair = .ok b) :
    WellTyped r implementation pair b := by
  obtain ⟨ident, arguments, result, hchecked, rfl⟩ := bridgeOf_ok_iff.1 hb
  have hstart := holds_ofParams pair.native
  have hnatives : pair.native.params.map some = pair.positions.map fun types => some types.1 := by
    rw [← hchecked.map_fst_positions, List.map_map]
    rfl
  have hactuals : pair.actual.params.map some = pair.positions.map fun types => some types.2 := by
    rw [← hchecked.map_snd_positions, List.map_map]
    rfl
  rw [hnatives] at hstart
  obtain ⟨converted, harguments, hkept, hargs⟩ :=
    argumentStatements_typed implementation pair hbuilt hchecked.arguments 0 _ hstart
  have henv : converted.set resultName (some pair.actual.returns) envParameter.name =
      some envParameter.type := by
    rw [Assignment.set_other _ _ env_ne_resultName, hkept.env]
    exact hstart.env
  obtain ⟨final, hresult, hvalue⟩ :=
    resultStatements_typed implementation pair hbuilt hchecked.result henv
      (Assignment.set_same converted _ _)
  have hcall : CallTyped r implementation pair converted
      ⟨calleePath implementation pair.actual.name, argumentNames 0 arguments, pair.fallible⟩
      pair.actual.returns :=
    ⟨pair.actual.params, .implementation, hargs.trans hactuals.symm⟩
  exact {
    env := rfl
    caller := rfl
    natives := fun i => by
      simp [draftedBridge, bridgeParams, List.getElem?_zipIdx, Option.map_map, Function.comp_def]
    returns := rfl
    reports := hstart.env
    statements := ⟨_, _, _, converted, final, rfl, harguments, hargs.trans hactuals.symm,
      hresult, harguments.append (.bind hcall hresult), hvalue⟩
    default := ⟨result, hchecked.result.found, hchecked.result.represented, rfl⟩ }

/-- The pair of the demo that converts both arguments and the result. -/
theorem prepareStmt_wellTyped :
    ∃ b, bridgeOf Demo.registry "SqliteApi" Demo.prepareStmtPair = .ok b ∧
      WellTyped Demo.registry "SqliteApi" Demo.prepareStmtPair b :=
  ⟨_, rfl, bridgeOf_wellTyped Demo.registry_built rfl⟩

end NativeBridge
