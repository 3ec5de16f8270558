/-
  NativeBridge/Proofs/Drafting.lean
  =================================
  **Drafting a checked pair never fails.**  A draft refuses a second parameter of one
  name and a scope that is opened twice, closed too early or left open.  None of this
  happens to the draft of a bridge: its parameter names differ for every arity, and
  its scope is opened and closed once.  `buildBridge_eq` says what the draft becomes.
-/
import NativeBridge.Proofs.Names
import Mathlib.Data.List.Nodup

namespace NativeBridge

/-! ### Parameters and statements of a draft -/

namespace Draft

variable {d : Draft} {name : String} {scope : Opening}

theorem addParameter_fresh (type : String) (h : name ∉ d.names) :
    d.addParameter name type = ⟨.ok (), { d with
      names := name :: d.names
      params := d.params ++ [⟨name, type⟩] }⟩ := by
  rw [addParameter, if_neg h, List.insert_of_not_mem h]

/-- Parameters are accepted as long as no name comes twice. -/
theorem withParameters_ok (ps : List Parameter) :
    ∀ d : Draft, (ps.map (·.name)).Nodup → (∀ p ∈ ps, p.name ∉ d.names) →
      d.withParameters ps = .ok { d with
        names := (ps.map (·.name)).reverse ++ d.names
        params := d.params ++ ps } := by
  induction ps with
  | nil =>
    intro d _ _
    rw [withParameters, List.append_nil]
    rfl
  | cons p ps ih =>
    intro d hnodup hfresh
    rw [List.map_cons, List.nodup_cons] at hnodup
    rw [withParameters, withParameter,
      addParameter_fresh p.type (hfresh p List.mem_cons_self)]
    have hrest : ∀ q ∈ ps, q.name ∉ p.name :: d.names := by
      intro q hq hmem
      rcases List.mem_cons.1 hmem with hsame | hearlier
      · exact hnodup.1 (hsame ▸ List.mem_map_of_mem hq)
      · exact hfresh q (List.mem_cons_of_mem p hq) hearlier
    refine (ih _ hnodup.2 hrest).trans ?_
    simp

theorem withStatement_opened (s : Statement) (h : d.opened = some scope) :
    d.withStatement s =
      { d with opened := some { scope with statements := scope.statements ++ [s] } } := by
  rw [withStatement, h]

theorem withStatements_opened (ss : List Statement) :
    ∀ (d : Draft) (scope : Opening), d.opened = some scope →
      d.withStatements ss =
        { d with opened := some { scope with statements := scope.statements ++ ss } } := by
  induction ss with
  | nil =>
    intro d scope h
    rw [withStatements, List.foldl_nil, List.append_nil, ← h]
  | cons s ss ih =>
    intro d scope h
    rw [withStatements, List.foldl_cons, withStatement_opened s h, ← withStatements, ih _ _ rfl]
    simp

end Draft

/-! ### The parameters of a bridge -/

/-- The roles of the parameters: two handles, then one name for every index. -/
def parameterRoles (arity : Nat) : List Role :=
  .env :: .caller :: (List.range arity).map Role.param

theorem parameterRoles_nodup (arity : Nat) : (parameterRoles arity).Nodup := by
  have hindices : ((List.range arity).map Role.param).Nodup :=
    List.Nodup.map (fun _ _ h => Role.param.inj h) List.nodup_range
  simp [parameterRoles, hindices]

theorem names_bridgeParams (native : Signature) :
    (bridgeParams native).map (·.name) = (parameterRoles native.arity).map Role.name := by
  have hsnd : native.params.zipIdx.map Prod.snd = List.range native.arity := by
    rw [List.zipIdx_map_snd, List.range_eq_range']
    rfl
  have hindices : native.params.zipIdx.map (fun p => paramName p.2) =
      (List.range native.arity).map paramName := by
    rw [← hsnd, List.map_map]
    rfl
  simpa [bridgeParams, parameterRoles, Role.name, Function.comp_def] using hindices

theorem types_bridgeParams (native : Signature) :
    (bridgeParams native).map (·.type) =
      envParameter.type :: callerParameter.type :: native.params := by
  simp [bridgeParams, Function.comp_def]

/-- No two parameters of a bridge have one name. -/
theorem names_bridgeParams_nodup (native : Signature) :
    ((bridgeParams native).map (·.name)).Nodup := by
  rw [names_bridgeParams]
  exact (parameterRoles_nodup native.arity).map Role.name_injective

/-! ### The bridge -/

/-- The call that attaches the thread, as a statement. -/
def attachStatement : Statement := .run ⟨attachPath, [], false⟩

/-- The bridge of a checked pair. -/
def draftedBridge (ident implementation : String) (pair : FunctionPair)
    (arguments : List TypeDescriptor) (result : TypeDescriptor) : Bridge :=
  ⟨ident, pair.symbol, bridgeParams pair.native, pair.native.returns, [attachStatement],
    ⟨envParameter.name, result.default, scopeStatements implementation pair arguments result,
      resultValue result⟩⟩

/-- No step of drafting a bridge is refused. -/
theorem buildBridge_eq (ident implementation : String) (pair : FunctionPair)
    (arguments : List TypeDescriptor) (result : TypeDescriptor) :
    buildBridge ident implementation pair arguments result =
      .ok (draftedBridge ident implementation pair arguments result) := by
  have hparams := Draft.withParameters_ok (bridgeParams pair.native)
    (Draft.start ident pair.symbol) (names_bridgeParams_nodup pair.native) (by simp [Draft.start])
  let opened : Draft :=
    ⟨ident, pair.symbol, bridgeParams pair.native,
      ((bridgeParams pair.native).map (·.name)).reverse ++ [], pair.native.returns,
      [attachStatement], some ⟨envParameter.name, result.default, []⟩, none⟩
  have hfilled := Draft.withStatements_opened
    (scopeStatements implementation pair arguments result) opened _ rfl
  rw [buildBridge, hparams]
  change ((opened.withStatements _).withValue _ >>= Draft.finish) = _
  rw [hfilled]
  rfl

end NativeBridge
