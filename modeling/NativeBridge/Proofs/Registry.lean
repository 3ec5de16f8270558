/-
  NativeBridge/Proofs/Registry.lean
  =================================
  **Registries that registration makes.**  A registry starts empty or with the standard
  types, and then only registration changes it.  What every such registry has in common
  is an invariant of `insert`: a descriptor is stored under its own name.
-/
import NativeBridge.Demo.Catalog

namespace NativeBridge

namespace TypeRegistry

/-- The registries that can be made.  A refused registration leaves the registry as it
    is, so it makes nothing new. -/
inductive Built : TypeRegistry → Prop
  | empty : Built .empty
  | standard : Built .standard
  | registered {r r' : TypeRegistry} {d : TypeDescriptor} (before : Built r)
      (accepted : r.register d = .ok r') : Built r'

/-! ### Keys -/

/-- Every descriptor is stored under its own name. -/
def KeyedByName (slots : List (String × TypeDescriptor)) : Prop :=
  ∀ slot ∈ slots, slot.2.name = slot.1

theorem mem_insert {key : String} {d : TypeDescriptor} {slot : String × TypeDescriptor} :
    ∀ {slots : List (String × TypeDescriptor)}, slot ∈ insert key d slots →
      slot = (key, d) ∨ slot ∈ slots := by
  intro slots
  induction slots with
  | nil => intro h; exact .inl (List.mem_singleton.1 h)
  | cons first rest ih =>
    intro h
    obtain ⟨k, e⟩ := first
    simp only [insert] at h
    by_cases hsame : k = key
    · rw [if_pos hsame] at h
      exact (List.mem_cons.1 h).imp id (List.mem_cons_of_mem _)
    · rw [if_neg hsame] at h
      by_cases hprecedes : precedes k key = true
      · rw [if_pos hprecedes] at h
        rcases List.mem_cons.1 h with rfl | hslot
        · exact .inr List.mem_cons_self
        · exact (ih hslot).imp id (List.mem_cons_of_mem _)
      · rw [if_neg hprecedes] at h
        exact List.mem_cons.1 h

theorem KeyedByName.insert {slots : List (String × TypeDescriptor)} (h : KeyedByName slots)
    (d : TypeDescriptor) : KeyedByName (insert d.name d slots) := by
  intro slot hslot
  rcases mem_insert hslot with rfl | hold
  · rfl
  · exact h slot hold

/-- Storing descriptors under their names, one after the other, keeps the invariant. -/
theorem KeyedByName.insertAll {slots : List (String × TypeDescriptor)} (h : KeyedByName slots)
    (ds : List TypeDescriptor) :
    KeyedByName (ds.foldl (fun slots d => TypeRegistry.insert d.name d slots) slots) := by
  induction ds generalizing slots with
  | nil => exact h
  | cons d ds ih => exact ih (h.insert d)

/-- An accepted descriptor is stored under its own name in what was there before. -/
theorem register_ok {r r' : TypeRegistry} {d : TypeDescriptor} (h : r.register d = .ok r') :
    d.flaw = none ∧ r.contains d.name = false ∧ r' = ⟨TypeRegistry.insert d.name d r.slots⟩ := by
  cases hflaw : d.flaw with
  | some flaw => simp [register, hflaw] at h
  | none =>
    cases hcontains : r.contains d.name with
    | true => simp [register, hflaw, hcontains] at h
    | false =>
      simp [register, hflaw, hcontains] at h
      exact ⟨rfl, rfl, h.symm⟩

theorem Built.keyedByName {r : TypeRegistry} (h : r.Built) : KeyedByName r.slots := by
  induction h with
  | empty => intro slot hslot; cases hslot
  | standard => exact KeyedByName.insertAll (fun _ h => absurd h List.not_mem_nil) _
  | registered before accepted ih =>
    obtain ⟨-, -, rfl⟩ := register_ok accepted
    exact ih.insert _

theorem mem_of_find? {r : TypeRegistry} {name : String} {d : TypeDescriptor}
    (h : r.find? name = some d) : (name, d) ∈ r.slots := by
  obtain ⟨before, after, hslots, -⟩ := List.lookup_eq_some_iff.1 h
  rw [hslots]
  exact List.mem_append_right _ List.mem_cons_self

/-- What is found under a name has that name. -/
theorem Built.name_of_find? {r : TypeRegistry} (h : r.Built) {name : String}
    {d : TypeDescriptor} (hfound : r.find? name = some d) : d.name = name :=
  h.keyedByName (name, d) (mem_of_find? hfound)

end TypeRegistry

/-! ### The registry of the demo -/

namespace Demo

/-- The standard types and the two of the demo. -/
def registry : TypeRegistry :=
  ⟨TypeRegistry.insert statusType.name statusType
    (TypeRegistry.insert dbType.name dbType TypeRegistry.standard.slots)⟩

theorem registry_built : registry.Built := by
  have hdb : TypeRegistry.standard.register dbType =
      .ok ⟨TypeRegistry.insert dbType.name dbType TypeRegistry.standard.slots⟩ := rfl
  have hstatus : TypeRegistry.register
      ⟨TypeRegistry.insert dbType.name dbType TypeRegistry.standard.slots⟩ statusType =
      .ok registry := rfl
  exact .registered (.registered .standard hdb) hstatus

end Demo

end NativeBridge
