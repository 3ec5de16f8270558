/-
  NativeBridge/Proofs/Relevance.lean
  ==================================
  **What a unit depends on.**  Of a catalog, a unit sees the path of the implementations,
  the imports, the runtime, the functions that are not excluded, and the types; and of
  the types it does not see the order.  Order could only matter to registration, which
  stops at the first fault: whether there is a fault is said without the order
  (`registerAll_ok_iff`), and if there is none, the slots are the same descriptors in
  the order of their names (`registerAll_perm`).
-/
import NativeBridge.Proofs.Batch
import NativeBridge.Proofs.Registration
import NativeBridge.Unit

namespace NativeBridge

open scoped List

/-! ### Registering all -/

namespace TypeRegistry

variable {r r' r₁ r₂ : TypeRegistry} {d : TypeDescriptor} {ds ds₁ ds₂ : List TypeDescriptor}

theorem register_ok_iff : (∃ r', r.register d = .ok r') ↔ d.Valid ∧ d.name ∉ r.keys := by
  rw [← contains_iff, Bool.not_eq_true]
  constructor
  · rintro ⟨r', hok⟩
    obtain ⟨hflaw, hnew, -⟩ := register_ok hok
    exact ⟨TypeDescriptor.flaw_eq_none_iff.1 hflaw, hnew⟩
  · rintro ⟨hvalid, hnew⟩
    exact ⟨_, register_of_valid hvalid hnew⟩

/-- Which names are new does not depend on the order of those that are taken. -/
theorem fresh_congr {taken taken' names : List String} (h : taken ~ taken') :
    Fresh taken names ↔ Fresh taken' names := by
  unfold Fresh
  simp only [h.mem_iff]

/-- All descriptors are accepted exactly when all are valid and their names are new and
    differ; the order does not come into it. -/
theorem registerAll_ok_iff : (∃ r', r.registerAll ds = .ok r') ↔
    (∀ d ∈ ds, d.Valid) ∧ Fresh r.keys (ds.map (·.name)) := by
  induction ds generalizing r with
  | nil => simp [registerAll, Fresh]
  | cons d ds ih =>
    rw [List.map_cons, fresh_cons_iff, List.forall_mem_cons]
    cases hregister : r.register d with
    | error e =>
      have hrefused : ¬ (d.Valid ∧ d.name ∉ r.keys) := by
        rw [← register_ok_iff, hregister]
        simp
      simp only [registerAll, hregister]
      constructor
      · rintro ⟨_, ⟨⟩⟩
      · rintro ⟨⟨hvalid, -⟩, hnew, -⟩
        exact absurd ⟨hvalid, hnew⟩ hrefused
    | ok r' =>
      obtain ⟨hvalid, hnew⟩ := register_ok_iff.1 ⟨r', hregister⟩
      have hkeys : r'.keys ~ d.name :: r.keys := (register_perm hregister).map Prod.fst
      simp only [registerAll, hregister]
      rw [ih, fresh_congr hkeys]
      simp [hvalid, hnew]

theorem registerAll_eq_afterAll (h : r.registerAll ds = .ok r') : r' = r.afterAll ds := by
  induction ds generalizing r with
  | nil => exact (Except.ok.inj h).symm
  | cons d ds ih =>
    cases hregister : r.register d with
    | error e => simp [registerAll, hregister] at h
    | ok s =>
      simp only [registerAll, hregister] at h
      rw [ih h, ← after_of_ok hregister]
      rfl

/-- The slots afterwards: those from before, and one for each descriptor. -/
theorem registerAll_perm (h : r.registerAll ds = .ok r') :
    r'.slots ~ ds.map (fun d => (d.name, d)) ++ r.slots := by
  induction ds generalizing r with
  | nil => cases h; exact .refl _
  | cons d ds ih =>
    cases hregister : r.register d with
    | error e => simp [registerAll, hregister] at h
    | ok s =>
      simp only [registerAll, hregister] at h
      calc r'.slots
        _ ~ ds.map (fun d => (d.name, d)) ++ s.slots := ih h
        _ ~ ds.map (fun d => (d.name, d)) ++ (d.name, d) :: r.slots :=
          (register_perm hregister).append_left _
        _ ~ (d :: ds).map (fun d => (d.name, d)) ++ r.slots := List.perm_middle

/-- Ascending slots are in the only order they can be in. -/
theorem eq_of_perm (h₁ : Ascending r₁.slots) (h₂ : Ascending r₂.slots)
    (hperm : r₁.slots ~ r₂.slots) : r₁ = r₂ := by
  have hslots : r₁.slots = r₂.slots := by
    apply hperm.eq_of_pairwise _ h₁ h₂
    intro a b _ _ hab hba
    exact absurd (List.lt_trans hab hba) (List.lt_irrefl _)
  cases r₁
  cases r₂
  exact congrArg TypeRegistry.mk hslots

theorem registerAll_eq_of_perm (hr : r.Consistent) (hperm : ds₁ ~ ds₂)
    (h₁ : r.registerAll ds₁ = .ok r₁) (h₂ : r.registerAll ds₂ = .ok r₂) : r₁ = r₂ := by
  have hascending : ∀ {ds s}, r.registerAll ds = .ok s → Ascending s.slots := by
    intro ds s h
    rw [registerAll_eq_afterAll h]
    exact (hr.afterAll ds).ascending
  apply eq_of_perm (hascending h₁) (hascending h₂)
  calc r₁.slots
    _ ~ ds₁.map (fun d => (d.name, d)) ++ r.slots := registerAll_perm h₁
    _ ~ ds₂.map (fun d => (d.name, d)) ++ r.slots := (hperm.map _).append_right _
    _ ~ r₂.slots := (registerAll_perm h₂).symm

theorem registerAll_ok_of_perm (hperm : ds₁ ~ ds₂) (h : ∃ r', r.registerAll ds₁ = .ok r') :
    ∃ r', r.registerAll ds₂ = .ok r' := by
  obtain ⟨hvalid, hnodup, hnew⟩ := registerAll_ok_iff.1 h
  apply registerAll_ok_iff.2
  refine ⟨?_, (hperm.map _).nodup_iff.1 hnodup, ?_⟩
  · intro d hd
    exact hvalid d (hperm.mem_iff.2 hd)
  · intro name hname
    exact hnew name ((hperm.map _).mem_iff.2 hname)

end TypeRegistry

/-! ### Units -/

/-- Catalogs agree in what a unit depends on.  Excluded functions may differ in number,
    place and content, the types in their order, and the destination altogether. -/
structure Catalog.Agrees (c c' : Catalog) : Prop where
  implementation : c.output.implementation = c'.output.implementation
  imports : c.output.imports = c'.output.imports
  runtime : c.output.runtime = c'.output.runtime
  functions : (c.functions.filter fun f => f.excluded = false) =
    c'.functions.filter fun f => f.excluded = false
  types : c.types ~ c'.types

namespace Catalog.Agrees

variable {c c' : Catalog}

theorem pairs_eq (h : c.Agrees c') : c.pairs = c'.pairs := by
  have hactive : ∀ c : Catalog, c.active = c.functions.filter fun f => f.excluded = false := by
    intro c
    apply List.filter_congr
    intro f _
    cases f.excluded <;> rfl
  rw [pairs, pairs, hactive, hactive, h.functions]

theorem renderOptions_eq (h : c.Agrees c') : c.renderOptions = c'.renderOptions := by
  rw [renderOptions, renderOptions, h.runtime, h.imports]

end Catalog.Agrees

/-- **A unit depends on nothing else.**  Of catalogs that agree, both have a registry or
    neither has one; if they have one, generation does the same on both: it logs the same
    and ends with the same bridges and text, or with the same error. -/
theorem unit_depends_on_agreement {c c' : Catalog} (h : c.Agrees c') :
    ((∃ r, c.registry = .ok r) ↔ ∃ r', c'.registry = .ok r') ∧
    ((∃ r, c.registry = .ok r) → c.unit = c'.unit) := by
  have hforward : (∃ r, c.registry = .ok r) → ∃ r', c'.registry = .ok r' :=
    TypeRegistry.registerAll_ok_of_perm h.types
  refine ⟨⟨hforward, TypeRegistry.registerAll_ok_of_perm h.types.symm⟩, ?_⟩
  rintro ⟨r, hr⟩
  obtain ⟨r', hr'⟩ := hforward ⟨r, hr⟩
  have hregistry : r = r' :=
    TypeRegistry.registerAll_eq_of_perm TypeRegistry.consistent_standard h.types hr hr'
  simp only [Catalog.unit, hr, hr', hregistry, h.pairs_eq, h.renderOptions_eq,
    h.implementation]

/-- The demo with its types the other way round, a second `close` that is excluded in
    front of its functions, and nowhere to go. -/
def Demo.rearranged : Catalog :=
  ⟨{ Demo.catalog.output with path := none }, Demo.catalog.types.reverse,
    { Demo.declared Demo.closePair with excluded := true } :: Demo.catalog.functions⟩

theorem rearrangedDemo_sameUnit :
    Demo.catalog.Agrees Demo.rearranged ∧ (∃ r, Demo.catalog.registry = .ok r) ∧
      ((∃ r, Demo.catalog.registry = .ok r) ↔ ∃ r', Demo.rearranged.registry = .ok r') ∧
      Demo.catalog.unit = Demo.rearranged.unit := by
  have hagrees : Demo.catalog.Agrees Demo.rearranged :=
    ⟨rfl, rfl, rfl, rfl, (List.reverse_perm Demo.catalog.types).symm⟩
  have hregistry : ∃ r, Demo.catalog.registry = .ok r := ⟨_, rfl⟩
  have hunit := unit_depends_on_agreement hagrees
  exact ⟨hagrees, hregistry, hunit.1, hunit.2 hregistry⟩

end NativeBridge
