/-
  NativeBridge/Proofs/Registration.lean
  =====================================
  **What registration keeps.**  A registry goes through registrations of which any may be
  refused.  `Consistent` is what all registries on the way have in common: descriptors
  are valid, they stand under their own names, and the names ascend byte by byte.  It
  holds of both registries that one can start from, and an accepted registration keeps it.

  An accepted descriptor is one entry more (`insert_perm`) and hides none
  (`lookup_insert_other`); a refused one leaves everything as it was.
-/
import Mathlib.Tactic.ByContra
import Mathlib.Tactic.SplitIfs
import NativeBridge.Proofs.Acceptance
import NativeBridge.Proofs.Lines
import NativeBridge.Proofs.Registry

namespace NativeBridge

/-! ### Valid descriptors -/

/-- A text that is made of white space, if of anything. -/
def Blank (s : String) : Prop := ∀ c ∈ s.toList, Text.isWhite c = true

theorem isBlank_iff {s : String} : Text.isBlank s = true ↔ Blank s := by
  simp [Text.isBlank, Blank]

namespace TypeDescriptor

/-- Nothing is blank, and without rules the type represents itself. -/
structure Valid (d : TypeDescriptor) : Prop where
  name : ¬ Blank d.name
  native : ¬ Blank d.native
  default : ¬ Blank d.default
  ruled : d.fromNative = none → d.toNative = none → d.native = d.name
  fromNative : ∀ rule, d.fromNative = some rule → ¬ Blank rule
  toNative : ∀ rule, d.toNative = some rule → ¬ Blank rule

theorem blankRules_iff {d : TypeDescriptor} :
    (blankRule d.fromNative || blankRule d.toNative) = true ↔
      (∃ rule, d.fromNative = some rule ∧ Blank rule) ∨
        ∃ rule, d.toNative = some rule ∧ Blank rule := by
  cases d.fromNative <;> cases d.toNative <;> simp [blankRule, isBlank_iff]

theorem unruled_iff {d : TypeDescriptor} :
    (d.hasNoRules && !d.representsItself) = true ↔
      d.fromNative = none ∧ d.toNative = none ∧ d.native ≠ d.name := by
  simp only [hasNoRules, representsItself, Bool.and_eq_true, Option.isNone_iff_eq_none,
    Bool.not_eq_true', beq_eq_false_iff_ne, and_assoc, ne_comm (a := d.name)]

/-- The checks of a descriptor find a flaw unless it is valid. -/
theorem flaw_eq_none_iff {d : TypeDescriptor} : d.flaw = none ↔ d.Valid := by
  unfold flaw
  constructor
  · intro h
    split_ifs at h with hname hnative hdefault hunruled hblank
    refine ⟨mt isBlank_iff.2 hname, mt isBlank_iff.2 hnative, mt isBlank_iff.2 hdefault,
      ?_, ?_, ?_⟩
    · intro hfrom hto
      by_contra hother
      exact hunruled (unruled_iff.2 ⟨hfrom, hto, hother⟩)
    · intro rule hrule hblanks
      exact hblank (blankRules_iff.2 (.inl ⟨rule, hrule, hblanks⟩))
    · intro rule hrule hblanks
      exact hblank (blankRules_iff.2 (.inr ⟨rule, hrule, hblanks⟩))
  · intro h
    rw [if_neg (mt isBlank_iff.1 h.name), if_neg (mt isBlank_iff.1 h.native),
      if_neg (mt isBlank_iff.1 h.default), if_neg, if_neg]
    · intro hblank
      rcases blankRules_iff.1 hblank with ⟨rule, hrule, hblanks⟩ | ⟨rule, hrule, hblanks⟩
      · exact h.fromNative rule hrule hblanks
      · exact h.toNative rule hrule hblanks
    · intro hunruled
      obtain ⟨hfrom, hto, hother⟩ := unruled_iff.1 hunruled
      exact hother (h.ruled hfrom hto)

end TypeDescriptor

namespace TypeRegistry

variable {slots : List (String × TypeDescriptor)} {key name : String} {d e : TypeDescriptor}

/-! ### Storing a descriptor -/

/-- Keys ascend by their bytes, so none comes twice. -/
def Ascending (slots : List (String × TypeDescriptor)) : Prop :=
  slots.Pairwise fun a b => Text.bytes a.1 < Text.bytes b.1

theorem precedes_iff {a b : String} : precedes a b = true ↔ Text.bytes a < Text.bytes b := by
  simp [precedes]

/-- Of two names one precedes the other. -/
theorem bytes_lt_of_not_precedes {a b : String} (hne : a ≠ b) (h : ¬ precedes a b = true) :
    Text.bytes b < Text.bytes a := by
  rw [precedes_iff] at h
  by_contra hback
  apply hne
  apply bytes_injective
  exact List.le_antisymm (List.not_lt.1 hback) (List.not_lt.1 h)

theorem Ascending.insert (h : Ascending slots) (key : String) (d : TypeDescriptor) :
    Ascending (insert key d slots) := by
  induction slots with
  | nil => exact List.pairwise_singleton ..
  | cons first rest ih =>
    obtain ⟨k, e⟩ := first
    obtain ⟨hfirst, hrest⟩ := List.pairwise_cons.1 h
    unfold TypeRegistry.insert
    split_ifs with hsame hprecedes
    · subst hsame
      exact List.pairwise_cons.2 ⟨hfirst, hrest⟩
    · apply List.pairwise_cons.2
      refine ⟨?_, ih hrest⟩
      intro slot hslot
      rcases mem_insert hslot with rfl | hold
      · exact precedes_iff.1 hprecedes
      · exact hfirst slot hold
    · have hlt := bytes_lt_of_not_precedes hsame hprecedes
      apply List.pairwise_cons.2
      refine ⟨?_, h⟩
      intro slot hslot
      rcases List.mem_cons.1 hslot with rfl | hold
      · exact hlt
      · exact List.lt_trans hlt (hfirst slot hold)

/-- A descriptor under a new key is one slot more. -/
theorem insert_perm (hnew : key ∉ slots.map Prod.fst) :
    (insert key d slots).Perm ((key, d) :: slots) := by
  induction slots with
  | nil => exact .refl _
  | cons first rest ih =>
    obtain ⟨k, e⟩ := first
    rw [List.map_cons, List.mem_cons, not_or] at hnew
    obtain ⟨hk, hrest⟩ := hnew
    unfold insert
    split_ifs with hsame hprecedes
    · exact absurd hsame.symm hk
    · exact ((ih hrest).cons (k, e)).trans (.swap ..)
    · exact .refl _

theorem lookup_insert_other (hother : name ≠ key) :
    (insert key d slots).lookup name = slots.lookup name := by
  have hne : (name == key) = false := beq_eq_false_iff_ne.2 hother
  induction slots with
  | nil => simp [insert, List.lookup_cons, hne]
  | cons first rest ih =>
    obtain ⟨k, e⟩ := first
    unfold insert
    split_ifs with hsame hprecedes
    · subst hsame
      simp [List.lookup_cons, hne]
    · simp [List.lookup_cons, ih]
    · simp [List.lookup_cons, hne]

/-! ### One registration -/

section

variable {r r' : TypeRegistry}

def keys (r : TypeRegistry) : List String := r.slots.map Prod.fst

theorem contains_iff : r.contains name = true ↔ name ∈ r.keys := by
  rw [contains, find?, keys, ← not_iff_not, Bool.not_eq_true, Option.isSome_eq_false_iff,
    Option.isNone_iff_eq_none, List.lookup_eq_none_iff]
  constructor
  · intro h hmem
    obtain ⟨slot, hslot, rfl⟩ := List.mem_map.1 hmem
    simpa using h slot hslot
  · intro h slot hslot
    apply bne_iff_ne.2
    rintro rfl
    exact h (List.mem_map_of_mem hslot)

/-- What every registry that registration makes has in common. -/
structure Consistent (r : TypeRegistry) : Prop where
  keyed : KeyedByName r.slots
  valid : ∀ slot ∈ r.slots, slot.2.Valid
  ascending : Ascending r.slots

theorem consistent_empty : empty.Consistent :=
  ⟨List.forall_mem_nil _, List.forall_mem_nil _, List.Pairwise.nil⟩

theorem Consistent.insert (h : r.Consistent) (hd : d.Valid) :
    Consistent ⟨TypeRegistry.insert d.name d r.slots⟩ := by
  refine ⟨h.keyed.insert d, ?_, h.ascending.insert d.name d⟩
  intro slot hslot
  rcases mem_insert hslot with rfl | hold
  · exact hd
  · exact h.valid slot hold

/-- The standard types are stored without being checked, but all of them are valid. -/
theorem consistent_standard : standard.Consistent := by
  have hall : ∀ ds : List TypeDescriptor, (∀ d ∈ ds, d.flaw = none) →
      ∀ slots, Consistent ⟨slots⟩ →
        Consistent ⟨ds.foldl (fun slots d => TypeRegistry.insert d.name d slots) slots⟩ := by
    intro ds
    induction ds with
    | nil => intro _ slots h; exact h
    | cons d ds ih =>
      intro hds slots h
      obtain ⟨hd, hrest⟩ := List.forall_mem_cons.1 hds
      exact ih hrest _ (h.insert (TypeDescriptor.flaw_eq_none_iff.1 hd))
  apply hall
  · decide
  · exact consistent_empty

theorem register_of_valid (hd : d.Valid) (hnew : r.contains d.name = false) :
    r.register d = .ok ⟨TypeRegistry.insert d.name d r.slots⟩ := by
  simp [register, TypeDescriptor.flaw_eq_none_iff.2 hd, hnew]

theorem register_of_invalid (hd : ¬ d.Valid) :
    ∃ flaw, r.register d = .error (.invalidDescriptor d.name flaw) := by
  cases hflaw : d.flaw with
  | none => exact absurd (TypeDescriptor.flaw_eq_none_iff.1 hflaw) hd
  | some flaw => exact ⟨flaw, by simp [register, hflaw]⟩

theorem register_of_taken (hd : d.Valid) (htaken : r.contains d.name = true) :
    r.register d = .error (.duplicateType d.name) := by
  simp [register, TypeDescriptor.flaw_eq_none_iff.2 hd, htaken]

theorem after_of_ok (h : r.register d = .ok r') : r.after d = r' := by
  rw [after, h]

theorem after_of_error {e : BridgeError} (h : r.register d = .error e) : r.after d = r := by
  rw [after, h]

/-- An accepted descriptor is one slot more, under its own name. -/
theorem register_perm (hok : r.register d = .ok r') :
    r'.slots.Perm ((d.name, d) :: r.slots) := by
  obtain ⟨-, hnew, rfl⟩ := register_ok hok
  apply insert_perm
  change d.name ∉ r.keys
  rw [← contains_iff, hnew]
  decide

/-- A registration is accepted, or it changes nothing. -/
theorem after_cases (r : TypeRegistry) (d : TypeDescriptor) :
    (∃ r', r.register d = .ok r' ∧ r.after d = r') ∨
      ∃ e, r.register d = .error e ∧ r.after d = r := by
  cases h : r.register d with
  | ok r' => exact .inl ⟨r', rfl, after_of_ok h⟩
  | error e => exact .inr ⟨e, rfl, after_of_error h⟩

theorem Consistent.after (h : r.Consistent) (d : TypeDescriptor) : (r.after d).Consistent := by
  rcases after_cases r d with ⟨r', hok, hafter⟩ | ⟨e, -, hafter⟩
  · rw [hafter]
    obtain ⟨hflaw, -, rfl⟩ := register_ok hok
    exact h.insert (TypeDescriptor.flaw_eq_none_iff.1 hflaw)
  · rw [hafter]
    exact h

theorem size_after (r : TypeRegistry) (d : TypeDescriptor) :
    (r.after d).size = r.size + if (r.register d).isOk then 1 else 0 := by
  rcases after_cases r d with ⟨r', hok, hafter⟩ | ⟨e, herror, hafter⟩
  · rw [hafter, hok]
    exact (register_perm hok).length_eq
  · rw [hafter, herror]
    rfl

/-- A name that is found is not given to another descriptor. -/
theorem find?_after (h : r.find? name = some e) (d : TypeDescriptor) :
    (r.after d).find? name = some e := by
  rcases after_cases r d with ⟨r', hok, hafter⟩ | ⟨_, -, hafter⟩
  · rw [hafter]
    obtain ⟨-, hnew, rfl⟩ := register_ok hok
    have hother : name ≠ d.name := by
      rintro rfl
      rw [contains, h] at hnew
      cases hnew
    exact (lookup_insert_other hother).trans h
  · rw [hafter]
    exact h

end

/-! ### Registrations in a row -/

section

variable {r : TypeRegistry}

theorem Consistent.afterAll (h : r.Consistent) (ds : List TypeDescriptor) :
    (r.afterAll ds).Consistent := by
  induction ds generalizing r with
  | nil => exact h
  | cons d ds ih => exact ih (h.after d)

theorem find?_afterAll (h : r.find? name = some e) (ds : List TypeDescriptor) :
    (r.afterAll ds).find? name = some e := by
  induction ds generalizing r with
  | nil => exact h
  | cons d ds ih => exact ih (find?_after h d)

/-- How many of the registrations are accepted. -/
def accepted (r : TypeRegistry) : List TypeDescriptor → Nat
  | [] => 0
  | d :: ds => (if (r.register d).isOk then 1 else 0) + (r.after d).accepted ds

theorem size_afterAll (r : TypeRegistry) (ds : List TypeDescriptor) :
    (r.afterAll ds).size = r.size + r.accepted ds := by
  induction ds generalizing r with
  | nil => rfl
  | cons d ds ih =>
    change ((r.after d).afterAll ds).size = _
    rw [ih, size_after, accepted, Nat.add_assoc]

theorem Consistent.names_eq (h : r.Consistent) : r.names = r.keys := by
  rw [names, entries, List.map_map]
  exact List.map_congr_left h.keyed

theorem Consistent.names_ascending (h : r.Consistent) :
    r.names.Pairwise fun a b => Text.bytes a < Text.bytes b := by
  rw [h.names_eq]
  exact List.pairwise_map.2 h.ascending

end

/-- **A registry stays in order.**  It starts from one registry and goes through
    registrations of which any may be refused; this is said of the registry they lead to
    and of what comes after. -/
structure StaysInOrder (start : TypeRegistry) (ds : List TypeDescriptor) : Prop where
  keyed : ∀ slot ∈ (start.afterAll ds).slots, slot.2.name = slot.1
  checked : ∀ d ∈ (start.afterAll ds).entries, d.checked = .ok ()
  distinct : (start.afterAll ds).names.Nodup
  ascending : (start.afterAll ds).names.Pairwise fun a b => Text.bytes a < Text.bytes b
  size : (start.afterAll ds).size = start.size + start.accepted ds
  /-- What is refused, and as what: a flaw is reported before a name that is taken. -/
  refused_iff : ∀ d, (∃ e, (start.afterAll ds).register d = .error e) ↔
    ¬ d.Valid ∨ d.name ∈ (start.afterAll ds).names
  invalid : ∀ d, ¬ d.Valid →
    ∃ flaw, (start.afterAll ds).register d = .error (.invalidDescriptor d.name flaw)
  taken : ∀ d, d.Valid → d.name ∈ (start.afterAll ds).names →
    (start.afterAll ds).register d = .error (.duplicateType d.name)
  unchanged : ∀ d e, (start.afterAll ds).register d = .error e →
    (start.afterAll ds).after d = start.afterAll ds
  found : ∀ name d, (start.afterAll ds).lookup name none = .ok d →
    ∀ more, ((start.afterAll ds).afterAll more).lookup name none = .ok d

theorem Consistent.staysInOrder {start : TypeRegistry} (h : start.Consistent)
    (ds : List TypeDescriptor) : StaysInOrder start ds := by
  have hr := h.afterAll ds
  have hsize := size_afterAll start ds
  generalize hlast : start.afterAll ds = r at hr hsize
  have htaken : ∀ d : TypeDescriptor, r.contains d.name = true ↔ d.name ∈ r.names := by
    intro d
    rw [contains_iff, hr.names_eq]
  refine ⟨?_, ?_, ?_, ?_, ?_, ?_, ?_, ?_, ?_, ?_⟩ <;> rw [hlast]
  · exact hr.keyed
  · intro d hd
    obtain ⟨slot, hslot, rfl⟩ := List.mem_map.1 hd
    rw [TypeDescriptor.checked, TypeDescriptor.flaw_eq_none_iff.2 (hr.valid slot hslot)]
  · apply hr.names_ascending.imp
    rintro a b hlt rfl
    exact List.lt_irrefl _ hlt
  · exact hr.names_ascending
  · exact hsize
  · intro d
    constructor
    · rintro ⟨e, herror⟩
      by_contra hfine
      obtain ⟨hvalid, hnew⟩ := not_or.1 hfine
      rw [← htaken, Bool.not_eq_true] at hnew
      rw [register_of_valid (not_not.1 hvalid) hnew] at herror
      cases herror
    · intro hwrong
      by_cases hvalid : d.Valid
      · have hname := hwrong.resolve_left (not_not.2 hvalid)
        exact ⟨_, register_of_taken hvalid ((htaken d).2 hname)⟩
      · obtain ⟨flaw, herror⟩ := register_of_invalid (r := r) hvalid
        exact ⟨_, herror⟩
  · intro d hd
    exact register_of_invalid hd
  · intro d hd hname
    exact register_of_taken hd ((htaken d).2 hname)
  · intro d e herror
    exact after_of_error herror
  · intro name d hd more
    rw [lookup_ok_iff] at hd ⊢
    exact find?_afterAll hd more

theorem registration_staysInOrder (ds : List TypeDescriptor) :
    StaysInOrder .empty ds ∧ StaysInOrder .standard ds :=
  ⟨consistent_empty.staysInOrder ds, consistent_standard.staysInOrder ds⟩

end TypeRegistry

end NativeBridge
