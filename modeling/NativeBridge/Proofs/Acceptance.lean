/-
  NativeBridge/Proofs/Acceptance.lean
  ===================================
  **Which pairs are accepted.**  `Carried` says what the registry must hold about a
  native and an actual type at one position, and `FunctionPair.Fits` what a pair needs at
  all positions.  Generation accepts exactly the pairs that fit (`exists_bridgeOf_iff`).
  What it makes of them is in `bridgeOf_ok_iff`; whatever it refuses a pair for is about
  the pair (`bridgeOf_error`), since drafting cannot fail.
-/
import NativeBridge.Proofs.Drafting
import Mathlib.Data.List.Forall2

namespace NativeBridge

/-! ### Sequences that may fail -/

theorem bind_ok_iff {ε α β : Type} {x : Except ε α} {f : α → Except ε β} {b : β} :
    x >>= f = .ok b ↔ ∃ a, x = .ok a ∧ f a = .ok b := by
  cases x with
  | error e =>
    constructor
    · intro h; cases h
    · rintro ⟨a, ha, -⟩; cases ha
  | ok a =>
    constructor
    · intro h; exact ⟨a, rfl, h⟩
    · rintro ⟨a', ha, h⟩; cases ha; exact h

theorem bind_error_iff {ε α β : Type} {x : Except ε α} {f : α → Except ε β} {e : ε} :
    x >>= f = .error e ↔ x = .error e ∨ ∃ a, x = .ok a ∧ f a = .error e := by
  cases x with
  | error e' =>
    constructor
    · intro h; cases h; exact .inl rfl
    · rintro (h | ⟨a, ha, -⟩)
      · cases h; rfl
      · cases ha
  | ok a =>
    constructor
    · intro h; exact .inr ⟨a, rfl, h⟩
    · rintro (h | ⟨a', ha, h⟩)
      · cases h
      · cases ha; exact h

/-- A value that is let through only if it passes a test. -/
theorem bind_guard_ok_iff {ε α : Type} {x : Except ε α} {test : α → Bool} {refusal : α → ε}
    {a : α} :
    (x >>= fun a => if test a then .ok a else .error (refusal a)) = .ok a ↔
      x = .ok a ∧ test a = true := by
  rw [bind_ok_iff]
  constructor
  · rintro ⟨a', hx, h⟩
    by_cases htest : test a' = true
    · rw [if_pos htest] at h
      cases h
      exact ⟨hx, htest⟩
    · rw [if_neg htest] at h
      cases h
  · rintro ⟨hx, htest⟩
    exact ⟨a, hx, if_pos htest⟩

theorem bind_guard_error {ε α : Type} {x : Except ε α} {test : α → Bool} {refusal : α → ε}
    {e : ε} (h : (x >>= fun a => if test a then .ok a else .error (refusal a)) = .error e) :
    x = .error e ∨ ∃ a, refusal a = e := by
  rcases bind_error_iff.1 h with h | ⟨a, -, h⟩
  · exact .inl h
  · by_cases htest : test a = true
    · rw [if_pos htest] at h
      cases h
    · rw [if_neg htest] at h
      cases h
      exact .inr ⟨a, rfl⟩

/-! ### Positions -/

/-- A name under which a primitive of the boundary is registered. -/
def TypeRegistry.HasPrimitive (r : TypeRegistry) (name : String) : Prop :=
  ∃ d, r.find? name = some d ∧ d.name = d.native ∧ d.fromNative = none ∧ d.toNative = none

/-- At a position, the native type is a primitive, and the actual type has a descriptor
    that is represented by it. -/
structure Carried (r : TypeRegistry) (native actual : String) (d : TypeDescriptor) : Prop where
  primitive : r.HasPrimitive native
  found : r.find? actual = some d
  represented : d.native = native

/-- The value of an argument has a way in: by a rule, or as it is. -/
structure CarriedIn (r : TypeRegistry) (native actual : String) (d : TypeDescriptor) : Prop
    extends Carried r native actual d where
  wayIn : d.fromNative ≠ none ∨ d.name = d.native

/-- The value of a result has a way out. -/
structure CarriedOut (r : TypeRegistry) (native actual : String) (d : TypeDescriptor) : Prop
    extends Carried r native actual d where
  wayOut : d.toNative ≠ none ∨ d.name = d.native

theorem TypeDescriptor.isPrimitive_iff (d : TypeDescriptor) :
    d.isPrimitive = true ↔ d.name = d.native ∧ d.fromNative = none ∧ d.toNative = none := by
  simp [isPrimitive, representsItself, hasNoRules]

theorem lookup_ok_iff {r : TypeRegistry} {name : String} {place : Option (Position × String)}
    {d : TypeDescriptor} : r.lookup name place = .ok d ↔ r.find? name = some d := by
  rw [TypeRegistry.lookup]
  cases r.find? name <;> simp

theorem descriptorAt_ok_iff {r : TypeRegistry} {symbol : String} {position : Position}
    {native actual : String} {d : TypeDescriptor} :
    descriptorAt r symbol position native actual = .ok d ↔ Carried r native actual d := by
  rw [descriptorAt, bind_ok_iff]
  constructor
  · rintro ⟨primitive, hnative, h⟩
    by_cases hprimitive : primitive.isPrimitive = true
    · rw [if_pos hprimitive, bind_ok_iff] at h
      obtain ⟨d', hactual, h⟩ := h
      by_cases hrepresented : d'.native = native
      · rw [if_pos hrepresented] at h
        cases h
        exact ⟨⟨primitive, lookup_ok_iff.1 hnative, primitive.isPrimitive_iff.1 hprimitive⟩,
          lookup_ok_iff.1 hactual, hrepresented⟩
      · rw [if_neg hrepresented] at h
        cases h
    · rw [if_neg hprimitive] at h
      cases h
  · rintro ⟨⟨primitive, hnative, hprimitive⟩, hactual, hrepresented⟩
    refine ⟨primitive, lookup_ok_iff.2 hnative, ?_⟩
    rw [if_pos (primitive.isPrimitive_iff.2 hprimitive), bind_ok_iff]
    exact ⟨d, lookup_ok_iff.2 hactual, if_pos hrepresented⟩

theorem argumentDescriptor_ok_iff {r : TypeRegistry} {symbol : String} {i : Nat}
    {native actual : String} {d : TypeDescriptor} :
    argumentDescriptor r symbol i native actual = .ok d ↔ CarriedIn r native actual d := by
  have hway : (d.convertsArguments || d.representsItself) = true ↔
      d.fromNative ≠ none ∨ d.name = d.native := by
    simp [TypeDescriptor.convertsArguments, TypeDescriptor.representsItself,
      Option.isSome_iff_ne_none]
  rw [argumentDescriptor, bind_guard_ok_iff, descriptorAt_ok_iff, hway]
  exact ⟨fun ⟨hcarried, hin⟩ => ⟨hcarried, hin⟩, fun h => ⟨h.toCarried, h.wayIn⟩⟩

theorem resultDescriptor_ok_iff {r : TypeRegistry} {symbol native actual : String}
    {d : TypeDescriptor} :
    resultDescriptor r symbol native actual = .ok d ↔ CarriedOut r native actual d := by
  have hway : (d.convertsResults || d.representsItself) = true ↔
      d.toNative ≠ none ∨ d.name = d.native := by
    simp [TypeDescriptor.convertsResults, TypeDescriptor.representsItself,
      Option.isSome_iff_ne_none]
  rw [resultDescriptor, bind_guard_ok_iff, descriptorAt_ok_iff, hway]
  exact ⟨fun ⟨hcarried, hout⟩ => ⟨hcarried, hout⟩, fun h => ⟨h.toCarried, h.wayOut⟩⟩

/-- The positions of the arguments are checked one by one; the index only serves the
    wording of a refusal. -/
theorem argumentDescriptors_ok_iff {r : TypeRegistry} {symbol : String}
    {positions : List (String × String)} :
    ∀ {i : Nat} {ds : List TypeDescriptor}, argumentDescriptors r symbol i positions = .ok ds ↔
      List.Forall₂ (fun types d => CarriedIn r types.1 types.2 d) positions ds := by
  induction positions with
  | nil =>
    intro i ds
    rw [argumentDescriptors, List.forall₂_nil_left_iff]
    constructor
    · intro h; cases h; rfl
    · rintro rfl; rfl
  | cons types rest ih =>
    intro i ds
    rw [argumentDescriptors, bind_ok_iff, List.forall₂_cons_left_iff]
    constructor
    · rintro ⟨d, hd, h⟩
      obtain ⟨ds', hds, h⟩ := bind_ok_iff.1 h
      cases h
      exact ⟨d, ds', argumentDescriptor_ok_iff.1 hd, ih.1 hds, rfl⟩
    · rintro ⟨d, ds', hd, hds, rfl⟩
      exact ⟨d, argumentDescriptor_ok_iff.2 hd, bind_ok_iff.2 ⟨ds', ih.2 hds, rfl⟩⟩

/-! ### Pairs -/

/-- What the checks of a pair find out before its bridge is drafted. -/
structure Checked (r : TypeRegistry) (pair : FunctionPair) (ident : String)
    (arguments : List TypeDescriptor) (result : TypeDescriptor) : Prop where
  arity : pair.native.arity = pair.actual.arity
  ident : identifierFor pair.symbol = .ok ident
  arguments :
    List.Forall₂ (fun types d => CarriedIn r types.1 types.2 d) pair.positions arguments
  result : CarriedOut r pair.native.returns pair.actual.returns result

section

variable {r : TypeRegistry} {pair : FunctionPair} {ident : String}
  {arguments : List TypeDescriptor} {result : TypeDescriptor}

theorem Checked.map_fst_positions (h : Checked r pair ident arguments result) :
    pair.positions.map Prod.fst = pair.native.params :=
  List.map_fst_zip (Nat.le_of_eq h.arity)

theorem Checked.map_snd_positions (h : Checked r pair ident arguments result) :
    pair.positions.map Prod.snd = pair.actual.params :=
  List.map_snd_zip (Nat.le_of_eq h.arity.symm)

theorem Checked.forall₂_found (h : Checked r pair ident arguments result) :
    List.Forall₂ (fun type d => r.find? type = some d) pair.actual.params arguments := by
  rw [← h.map_snd_positions, List.forall₂_map_left_iff]
  exact h.arguments.imp fun types d hd => hd.found

theorem Checked.length_arguments (h : Checked r pair ident arguments result) :
    arguments.length = pair.native.arity := by
  rw [← h.arguments.length_eq, Signature.arity, ← h.map_fst_positions, List.length_map]

end

theorem matchArity_ok_iff {pair : FunctionPair} :
    pair.matchArity = .ok () ↔ pair.native.arity = pair.actual.arity := by
  rw [FunctionPair.matchArity]
  by_cases h : pair.native.arity = pair.actual.arity <;> simp [h]

/-- A pair is accepted when it can be checked, and then its bridge is the drafted one. -/
theorem bridgeOf_ok_iff {r : TypeRegistry} {implementation : String} {pair : FunctionPair}
    {b : Bridge} :
    bridgeOf r implementation pair = .ok b ↔
      ∃ ident arguments result, Checked r pair ident arguments result ∧
        draftedBridge ident implementation pair arguments result = b := by
  rw [bridgeOf, bind_ok_iff]
  constructor
  · rintro ⟨⟨⟩, harity, h⟩
    obtain ⟨ident, hident, h⟩ := bind_ok_iff.1 h
    obtain ⟨arguments, harguments, h⟩ := bind_ok_iff.1 h
    obtain ⟨result, hresult, h⟩ := bind_ok_iff.1 h
    rw [buildBridge_eq] at h
    cases h
    exact ⟨ident, arguments, result, ⟨matchArity_ok_iff.1 harity, hident,
      argumentDescriptors_ok_iff.1 harguments, resultDescriptor_ok_iff.1 hresult⟩, rfl⟩
  · rintro ⟨ident, arguments, result, h, rfl⟩
    refine ⟨(), matchArity_ok_iff.2 h.arity, bind_ok_iff.2 ⟨ident, h.ident, ?_⟩⟩
    refine bind_ok_iff.2 ⟨arguments, argumentDescriptors_ok_iff.2 h.arguments, ?_⟩
    exact bind_ok_iff.2 ⟨result, resultDescriptor_ok_iff.2 h.result, buildBridge_eq ..⟩

/-- What a pair must be: both sides have as many parameters, the symbol is not blank,
    and every position is carried in the direction in which its value travels. -/
structure FunctionPair.Fits (r : TypeRegistry) (pair : FunctionPair) : Prop where
  arity : pair.native.params.length = pair.actual.params.length
  symbol : ∃ c ∈ pair.symbol.toList, Text.isWhite c = false
  arguments : ∀ (i : Nat) (native actual : String), pair.native.params[i]? = some native →
    pair.actual.params[i]? = some actual → ∃ d, CarriedIn r native actual d
  result : ∃ d, CarriedOut r pair.native.returns pair.actual.returns d

theorem exists_identifierFor_iff {symbol : String} :
    (∃ ident, identifierFor symbol = .ok ident) ↔
      ∃ c ∈ symbol.toList, Text.isWhite c = false := by
  have hblank : Text.isBlank symbol = false ↔ ∃ c ∈ symbol.toList, Text.isWhite c = false := by
    simp [Text.isBlank]
  rw [← hblank, identifierFor]
  cases Text.isBlank symbol <;> simp

/-- A list can be answered when each of its members can. -/
theorem exists_forall₂_iff {α β : Type} {R : α → β → Prop} {xs : List α} :
    (∃ ys, List.Forall₂ R xs ys) ↔ ∀ x ∈ xs, ∃ y, R x y := by
  induction xs with
  | nil => exact ⟨fun _ x hx => absurd hx List.not_mem_nil, fun _ => ⟨[], .nil⟩⟩
  | cons x xs ih =>
    constructor
    · rintro ⟨zs, h⟩ x' hx'
      obtain ⟨y, ys, hy, hys, -⟩ := List.forall₂_cons_left_iff.1 h
      rcases List.mem_cons.1 hx' with rfl | hrest
      · exact ⟨y, hy⟩
      · exact ih.1 ⟨_, hys⟩ x' hrest
    · intro h
      obtain ⟨y, hy⟩ := h x List.mem_cons_self
      obtain ⟨ys, hys⟩ := ih.2 fun x' hx' => h x' (List.mem_cons_of_mem x hx')
      exact ⟨y :: ys, .cons hy hys⟩

theorem exists_mem_of_forall₂ {α β : Type} {R : α → β → Prop} {xs : List α} {ys : List β}
    (h : List.Forall₂ R xs ys) {x : α} (hx : x ∈ xs) : ∃ y ∈ ys, R x y := by
  induction h with
  | nil => cases hx
  | cons hxy _ ih =>
    rcases List.mem_cons.1 hx with rfl | hrest
    · exact ⟨_, List.mem_cons_self, hxy⟩
    · obtain ⟨y, hy, hR⟩ := ih hrest
      exact ⟨y, List.mem_cons_of_mem _ hy, hR⟩

theorem exists_arguments_iff {r : TypeRegistry} {pair : FunctionPair} :
    (∃ ds, List.Forall₂ (fun types d => CarriedIn r types.1 types.2 d) pair.positions ds) ↔
      ∀ (i : Nat) (native actual : String), pair.native.params[i]? = some native →
        pair.actual.params[i]? = some actual → ∃ d, CarriedIn r native actual d := by
  rw [exists_forall₂_iff]
  constructor
  · intro h i native actual hnative hactual
    exact h (native, actual)
      (List.mem_of_getElem? (List.getElem?_zip_eq_some.2 ⟨hnative, hactual⟩))
  · rintro h ⟨native, actual⟩ hmem
    obtain ⟨i, hi⟩ := List.mem_iff_getElem?.1 hmem
    obtain ⟨hnative, hactual⟩ := List.getElem?_zip_eq_some.1 hi
    exact h i native actual hnative hactual

/-- A pair is accepted exactly when it fits. -/
theorem exists_bridgeOf_iff {r : TypeRegistry} {implementation : String}
    {pair : FunctionPair} :
    (∃ b, bridgeOf r implementation pair = .ok b) ↔ pair.Fits r := by
  constructor
  · rintro ⟨b, h⟩
    obtain ⟨ident, arguments, result, hchecked, -⟩ := bridgeOf_ok_iff.1 h
    exact ⟨hchecked.arity, exists_identifierFor_iff.1 ⟨ident, hchecked.ident⟩,
      exists_arguments_iff.1 ⟨arguments, hchecked.arguments⟩, ⟨result, hchecked.result⟩⟩
  · intro h
    obtain ⟨ident, hident⟩ := exists_identifierFor_iff.2 h.symbol
    obtain ⟨arguments, harguments⟩ := exists_arguments_iff.2 h.arguments
    obtain ⟨result, hresult⟩ := h.result
    exact ⟨_, bridgeOf_ok_iff.2 ⟨ident, arguments, result,
      ⟨h.arity, hident, harguments, hresult⟩, rfl⟩⟩

theorem identifierFor_of_bridgeOf {r : TypeRegistry} {implementation : String}
    {pair : FunctionPair} {b : Bridge} (h : bridgeOf r implementation pair = .ok b) :
    identifierFor pair.symbol = .ok b.ident := by
  obtain ⟨ident, arguments, result, hchecked, rfl⟩ := bridgeOf_ok_iff.1 h
  exact hchecked.ident

/-! ### Refusals of a pair -/

/-- The errors that are about a pair: an unknown type with its place in the pair, or a
    mismatch of the pair.  None of them comes from drafting. -/
inductive BridgeError.IsAbout (symbol : String) : BridgeError → Prop
  | unknownType (name : String) (position : Position) :
      IsAbout symbol (.unknownType name (some (position, symbol)))
  | signatureMismatch (mismatch : Mismatch) : IsAbout symbol (.signatureMismatch symbol mismatch)

theorem lookup_error {r : TypeRegistry} {name : String} {place : Option (Position × String)}
    {e : BridgeError} (h : r.lookup name place = .error e) : e = .unknownType name place := by
  rw [TypeRegistry.lookup] at h
  cases hfound : r.find? name with
  | none => rw [hfound] at h; cases h; rfl
  | some d => rw [hfound] at h; cases h

theorem descriptorAt_error {r : TypeRegistry} {symbol : String} {position : Position}
    {native actual : String} {e : BridgeError}
    (h : descriptorAt r symbol position native actual = .error e) : e.IsAbout symbol := by
  rw [descriptorAt, bind_error_iff] at h
  rcases h with h | ⟨primitive, -, h⟩
  · rw [lookup_error h]
    exact .unknownType ..
  · by_cases hprimitive : primitive.isPrimitive = true
    · rw [if_pos hprimitive, bind_error_iff] at h
      rcases h with h | ⟨d, -, h⟩
      · rw [lookup_error h]
        exact .unknownType ..
      · by_cases hrepresented : d.native = native
        · rw [if_pos hrepresented] at h
          cases h
        · rw [if_neg hrepresented] at h
          cases h
          exact .signatureMismatch _
    · rw [if_neg hprimitive] at h
      cases h
      exact .signatureMismatch _

theorem argumentDescriptor_error {r : TypeRegistry} {symbol : String} {i : Nat}
    {native actual : String} {e : BridgeError}
    (h : argumentDescriptor r symbol i native actual = .error e) : e.IsAbout symbol := by
  rcases bind_guard_error h with h | ⟨d, rfl⟩
  · exact descriptorAt_error h
  · exact .signatureMismatch _

theorem resultDescriptor_error {r : TypeRegistry} {symbol native actual : String}
    {e : BridgeError} (h : resultDescriptor r symbol native actual = .error e) :
    e.IsAbout symbol := by
  rcases bind_guard_error h with h | ⟨d, rfl⟩
  · exact descriptorAt_error h
  · exact .signatureMismatch _

theorem argumentDescriptors_error {r : TypeRegistry} {symbol : String} {e : BridgeError}
    {positions : List (String × String)} :
    ∀ {i : Nat}, argumentDescriptors r symbol i positions = .error e → e.IsAbout symbol := by
  induction positions with
  | nil => intro i h; cases h
  | cons types rest ih =>
    intro i h
    rw [argumentDescriptors, bind_error_iff] at h
    rcases h with h | ⟨d, -, h⟩
    · exact argumentDescriptor_error h
    · rcases bind_error_iff.1 h with h | ⟨ds, -, h⟩
      · exact ih h
      · cases h

/-- Whatever a pair is refused for is about the pair: drafting refuses nothing. -/
theorem bridgeOf_error {r : TypeRegistry} {implementation : String} {pair : FunctionPair}
    {e : BridgeError} (h : bridgeOf r implementation pair = .error e) :
    e.IsAbout pair.symbol := by
  rw [bridgeOf, bind_error_iff] at h
  rcases h with h | ⟨-, -, h⟩
  · rw [FunctionPair.matchArity] at h
    split at h
    · cases h
    · cases h
      exact .signatureMismatch _
  rcases bind_error_iff.1 h with h | ⟨ident, -, h⟩
  · rw [identifierFor] at h
    split at h
    · cases h
      exact .signatureMismatch _
    · cases h
  rcases bind_error_iff.1 h with h | ⟨arguments, -, h⟩
  · exact argumentDescriptors_error h
  rcases bind_error_iff.1 h with h | ⟨result, -, h⟩
  · exact resultDescriptor_error h
  · rw [buildBridge_eq] at h
    cases h

end NativeBridge
