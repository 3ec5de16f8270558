/-
  NativeBridge/Proofs/Locals.lean
  ===============================
  **What the body of a bridge finds under its names.**  A bridge starts with a value for
  every parameter, and its body binds further names.  `Holds` is the invariant of the
  argument loop: the environment and the parameters still to come are under their names.
  `KeepsOthers` is what the loop leaves alone.  Both serve for the values at run time
  and, in the same words, for their types.
-/
import NativeBridge.Bridge.Execution
import NativeBridge.Proofs.Drafting

namespace NativeBridge

/-! ### Parameters -/

theorem Assignment.setAll_other {α : Type} {ps : List Parameter} :
    ∀ {vars : Assignment α} {as : List α} {name : String}, name ∉ ps.map (·.name) →
      vars.setAll ps as name = vars name := by
  induction ps with
  | nil => intro vars as name _; cases as <;> rfl
  | cons p ps ih =>
    intro vars as name h
    obtain ⟨hp, hps⟩ := not_or.1 (List.mem_cons.not.1 h)
    cases as with
    | nil => rfl
    | cons a as =>
      change (vars.set p.name a).setAll ps as name = vars name
      rw [ih hps, Assignment.set_other vars a hp]

/-- Parameters with different names hold their values. -/
theorem Assignment.map_setAll {α : Type} {ps : List Parameter} :
    ∀ (vars : Assignment α) {as : List α}, (ps.map (·.name)).Nodup → ps.length = as.length →
      ps.map (fun p => vars.setAll ps as p.name) = as := by
  induction ps with
  | nil => intro vars as _ hlength; exact (List.length_eq_zero_iff.1 hlength.symm).symm
  | cons p ps ih =>
    intro vars as hnodup hlength
    obtain ⟨hp, hps⟩ := List.nodup_cons.1 hnodup
    cases as with
    | nil => cases hlength
    | cons a as =>
      have hrest : ps.map (fun q => (vars.set p.name a).setAll ps as q.name) = as :=
        ih (vars.set p.name a) hps (Nat.succ.inj hlength)
      change (vars.set p.name a).setAll ps as p.name ::
        ps.map (fun q => (vars.set p.name a).setAll ps as q.name) = a :: as
      rw [hrest, Assignment.setAll_other hp, Assignment.set_same]

/-! ### The invariant of the argument loop -/

/-- An assignment as a bridge finds it: the environment, and a value for every index. -/
structure Holds {α : Type} (vars : Assignment α) (env : α) (natives : List α) (i : Nat) :
    Prop where
  env : vars envParameter.name = env
  params : ∀ (j : Nat) (a : α), natives[j]? = some a → vars (paramName (i + j)) = a

theorem Holds.tail {α : Type} {vars : Assignment α} {env a : α} {as : List α} {i : Nat}
    (h : Holds vars env (a :: as) i) : Holds vars env as (i + 1) := by
  refine ⟨h.env, fun j a' hj => ?_⟩
  rw [Nat.add_assoc, Nat.add_comm 1 j]
  exact h.params (j + 1) a' hj

/-- Binding a converted parameter is not seen by the handles and the parameters. -/
theorem Holds.set_convertedName {α : Type} {vars : Assignment α} {env : α} {natives : List α}
    {i : Nat} (h : Holds vars env natives i) (j : Nat) (c : α) :
    Holds (vars.set (convertedName (paramName j)) c) env natives i := by
  refine ⟨?_, fun l a ha => ?_⟩
  · rw [Assignment.set_other vars c (env_ne_convertedName j)]
    exact h.env
  · rw [Assignment.set_other vars c (paramName_ne_convertedName (i + l) j)]
    exact h.params l a ha

theorem holds_setAll {α : Type} (outer : Assignment α) (native : Signature) (env caller : α)
    {natives : List α} (h : natives.length = native.arity) :
    Holds (outer.setAll (bridgeParams native) (env :: caller :: natives)) env natives 0 := by
  generalize hvars : outer.setAll (bridgeParams native) (env :: caller :: natives) = vars
  have hlength : (bridgeParams native).length = (env :: caller :: natives).length := by
    simp [bridgeParams, h, Signature.arity]
  have hvalues := Assignment.map_setAll outer (names_bridgeParams_nodup native) hlength
  have hroles : (parameterRoles native.arity).map (fun role => vars role.name) =
      env :: caller :: natives := by
    rw [← hvalues, hvars]
    have hnames := congrArg (List.map vars) (names_bridgeParams native)
    rw [List.map_map, List.map_map] at hnames
    exact hnames.symm
  simp only [parameterRoles, List.map_cons, List.cons.injEq, List.map_map] at hroles
  obtain ⟨henv, -, hparams⟩ := hroles
  refine ⟨henv, ?_⟩
  intro j a ha
  rw [← hparams, List.getElem?_map] at ha
  obtain ⟨i, hi, rfl⟩ := Option.map_eq_some_iff.1 ha
  obtain ⟨hj, rfl⟩ := List.getElem?_eq_some_iff.1 hi
  rw [Nat.zero_add, List.getElem_range]
  rfl

/-! ### What the argument loop leaves alone -/

/-- Nothing has changed but names of converted parameters from an index on. -/
def KeepsOthers {α : Type} (i : Nat) (vars vars' : Assignment α) : Prop :=
  ∀ name, (∀ j, i ≤ j → name ≠ convertedName (paramName j)) → vars' name = vars name

namespace KeepsOthers

variable {α : Type} {i : Nat} {vars vars' : Assignment α}

theorem refl (i : Nat) (vars : Assignment α) : KeepsOthers i vars vars := fun _ _ => rfl

theorem env (h : KeepsOthers i vars vars') : vars' envParameter.name = vars envParameter.name :=
  h _ fun j _ => env_ne_convertedName j

theorem param (h : KeepsOthers i vars vars') (j : Nat) :
    vars' (paramName j) = vars (paramName j) :=
  h _ fun l _ => paramName_ne_convertedName j l

/-- The name of an earlier index is not bound again. -/
theorem converted (h : KeepsOthers (i + 1) vars vars') :
    vars' (convertedName (paramName i)) = vars (convertedName (paramName i)) :=
  h _ fun _ hj => convertedName_ne_convertedName (Nat.ne_of_lt hj)

theorem of_succ (h : KeepsOthers (i + 1) vars vars') : KeepsOthers i vars vars' := by
  intro name hname
  exact h name fun j hj => hname j (Nat.le_of_succ_le hj)

theorem of_set {c : α}
    (h : KeepsOthers (i + 1) (vars.set (convertedName (paramName i)) c) vars') :
    KeepsOthers i vars vars' := by
  intro name hname
  rw [h name fun j hj => hname j (Nat.le_of_succ_le hj)]
  exact Assignment.set_other vars c (hname i (Nat.le_refl i))

end KeepsOthers

end NativeBridge
