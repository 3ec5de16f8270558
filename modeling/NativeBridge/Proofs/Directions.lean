/-
  NativeBridge/Proofs/Directions.lean
  ===================================
  **Types with a rule that represent themselves.**  A type with one rule goes in the
  direction of its rule.  The checks of arguments and results exempt a type that
  represents itself, since its values can go through as they are.  But such a type meets
  another check first: a position where it stands must have it on the native side, and
  there only primitives are let in, which have no rule.

  So the exemption serves primitives alone.  A type that represents itself and has a rule
  can be registered, but no pair that names it is accepted (`not_accepted_of_names`); and
  where nothing else is wrong, this is what the pair is refused for
  (`only_notNative_violated`).
-/
import NativeBridge.Proofs.FirstFault

namespace NativeBridge

/-! ### The statement -/

/-- A registered type that represents itself and has a rule all the same. -/
structure TypeRegistry.RuledItself (r : TypeRegistry) (type : String) (d : TypeDescriptor) :
    Prop where
  found : r.find? type = some d
  itself : d.name = d.native
  ruled : d.fromNative ≠ none ∨ d.toNative ≠ none

/-- Both sides of a pair name the type at a position. -/
def FunctionPair.NamesTwice (pair : FunctionPair) (type : String) : Position → Prop
  | .parameter i => pair.native.params[i]? = some type ∧ pair.actual.params[i]? = some type
  | .result => pair.native.returns = type ∧ pair.actual.returns = type

/-- A pair that has one type on both sides of a position, and fits at all others. -/
structure FunctionPair.FitsBut (r : TypeRegistry) (pair : FunctionPair) (position : Position)
    (type : String) : Prop where
  arity : pair.native.params.length = pair.actual.params.length
  symbol : ∃ c ∈ pair.symbol.toList, Text.isWhite c = false
  named : pair.NamesTwice type position
  arguments : ∀ (i : Nat) (native actual : String), position ≠ .parameter i →
    pair.native.params[i]? = some native → pair.actual.params[i]? = some actual →
    ∃ d, CarriedIn r native actual d
  result : position ≠ .result → ∃ d, CarriedOut r pair.native.returns pair.actual.returns d

section

variable {r : TypeRegistry} {implementation : String} {pair : FunctionPair}
  {position : Position} {type : String} {d : TypeDescriptor}

/-! ### No pair names such a type -/

/-- A type with a rule is not a primitive of the boundary. -/
theorem TypeRegistry.RuledItself.not_hasPrimitive (h : r.RuledItself type d) :
    ¬ r.HasPrimitive type := by
  rintro ⟨primitive, hfound, -, hfrom, hto⟩
  obtain rfl := Option.some.inj (h.found.symm.trans hfound)
  rcases h.ruled with hruled | hruled
  · exact hruled hfrom
  · exact hruled hto

/-- What is carried has another type on neither side. -/
theorem TypeRegistry.RuledItself.not_carried (hbuilt : r.Built) (h : r.RuledItself type d)
    {native actual : String} {e : TypeDescriptor} (hcarried : Carried r native actual e) :
    native ≠ type ∧ actual ≠ type := by
  have hnative : native ≠ type := by
    rintro rfl
    exact h.not_hasPrimitive hcarried.primitive
  refine ⟨hnative, ?_⟩
  -- on the actual side the type would call for itself on the native one
  rintro rfl
  obtain rfl := Option.some.inj (h.found.symm.trans hcarried.found)
  apply hnative
  rw [← hcarried.represented, ← h.itself]
  exact hbuilt.name_of_find? h.found

theorem not_accepted_of_names (hbuilt : r.Built) (h : r.RuledItself type d)
    (hnames : pair.Names position type) (b : Bridge) :
    bridgeOf r implementation pair ≠ .ok b := by
  intro hb
  have hfits := exists_bridgeOf_iff.1 ⟨b, hb⟩
  have hargument (i : Nat) (hi : i < pair.native.params.length) :
      pair.native.params[i]? ≠ some type ∧ pair.actual.params[i]? ≠ some type := by
    have hactual : i < pair.actual.params.length := hfits.arity ▸ hi
    obtain ⟨e, he⟩ := hfits.arguments i _ _ (List.getElem?_eq_getElem hi)
      (List.getElem?_eq_getElem hactual)
    rw [List.getElem?_eq_getElem hi, List.getElem?_eq_getElem hactual]
    simpa using h.not_carried hbuilt he.toCarried
  obtain ⟨e, he⟩ := hfits.result
  obtain ⟨hnative, hactual⟩ := h.not_carried hbuilt he.toCarried
  rcases hnames with hi | hi | _ | _
  · exact (hargument _ (List.getElem?_eq_some_iff.1 hi).1).1 hi
  · have hlt := (List.getElem?_eq_some_iff.1 hi).1
    rw [← hfits.arity] at hlt
    exact (hargument _ hlt).2 hi
  · exact hnative rfl
  · exact hactual rfl

/-! ### What it is refused for -/

/-- At the position itself only the native side is wrong: the type is registered, it is
    represented by itself, and the check of its direction lets it through. -/
theorem TypeRegistry.RuledItself.position_checks (hbuilt : r.Built) (h : r.RuledItself type d)
    (symbol : String) (position : Position) {c : Check}
    (hc : c ∈ positionChecks r symbol position type type) (hviolated : ¬ c.holds) :
    c.error = .signatureMismatch symbol (.notNative position type) := by
  have hname : d.native = type := by
    rw [← h.itself]
    exact hbuilt.name_of_find? h.found
  simp only [positionChecks, List.mem_cons, List.not_mem_nil, or_false] at hc
  rcases hc with rfl | rfl | rfl | rfl
  · exact absurd (by simp [h.found]) hviolated
  · rfl
  · exact absurd (by simp [h.found]) hviolated
  · exact absurd (by simp [h.found, hname]) hviolated

theorem CarriedIn.checks_hold {native actual : String} (h : CarriedIn r native actual d)
    (symbol : String) (i : Nat) : ∀ c ∈ argumentChecks r symbol i native actual, c.holds :=
  (argumentDescriptor_performs symbol i native actual).exists_ok_iff.1
    ⟨d, argumentDescriptor_ok_iff.2 h⟩

theorem CarriedOut.checks_hold {native actual : String} (h : CarriedOut r native actual d)
    (symbol : String) : ∀ c ∈ resultChecks r symbol native actual, c.holds :=
  (resultDescriptor_performs symbol native actual).exists_ok_iff.1
    ⟨d, resultDescriptor_ok_iff.2 h⟩

theorem argument_only_notNative (hbuilt : r.Built) (h : r.RuledItself type d)
    (hfits : pair.FitsBut r position type) {i : Nat} {native actual : String}
    (hi : pair.positions[i]? = some (native, actual)) {c : Check}
    (hc : c ∈ argumentChecks r pair.symbol i native actual) (hviolated : ¬ c.holds) :
    c.error = .signatureMismatch pair.symbol (.notNative position type) := by
  obtain ⟨hnative, hactual⟩ : pair.native.params[i]? = some native ∧
      pair.actual.params[i]? = some actual :=
    List.getElem?_zip_eq_some.1 hi
  by_cases hposition : position = .parameter i
  · subst hposition
    obtain rfl := Option.some.inj (hnative.symm.trans hfits.named.1)
    obtain rfl := Option.some.inj (hactual.symm.trans hfits.named.2)
    rw [argumentChecks, List.mem_append, List.mem_singleton] at hc
    rcases hc with hc | rfl
    · exact h.position_checks hbuilt _ _ hc hviolated
    · exact absurd ⟨d, h.found, .inr h.itself⟩ hviolated
  · obtain ⟨e, he⟩ := hfits.arguments i native actual hposition hnative hactual
    exact absurd (he.checks_hold _ i c hc) hviolated

theorem result_only_notNative (hbuilt : r.Built) (h : r.RuledItself type d)
    (hfits : pair.FitsBut r position type) {c : Check}
    (hc : c ∈ resultChecks r pair.symbol pair.native.returns pair.actual.returns)
    (hviolated : ¬ c.holds) :
    c.error = .signatureMismatch pair.symbol (.notNative position type) := by
  by_cases hposition : position = .result
  · subst hposition
    rw [hfits.named.1, hfits.named.2, resultChecks, List.mem_append, List.mem_singleton] at hc
    rcases hc with hc | rfl
    · exact h.position_checks hbuilt _ _ hc hviolated
    · exact absurd ⟨d, h.found, .inr h.itself⟩ hviolated
  · obtain ⟨e, he⟩ := hfits.result hposition
    exact absurd (he.checks_hold _ c hc) hviolated

/-- Of all checks of the pair, the one of the native side is the only one that fails. -/
theorem only_notNative_violated (hbuilt : r.Built) (h : r.RuledItself type d)
    (hfits : pair.FitsBut r position type) {c : Check} (hc : c ∈ pairChecks r pair)
    (hviolated : ¬ c.holds) :
    c.error = .signatureMismatch pair.symbol (.notNative position type) := by
  simp only [pairChecks, List.cons_append, List.mem_cons, List.mem_append] at hc
  rcases hc with rfl | rfl | hc | hc
  · exact absurd hfits.arity hviolated
  · apply absurd _ hviolated
    obtain ⟨x, hx, hwhite⟩ := hfits.symbol
    intro hblank
    rw [hblank x hx] at hwhite
    cases hwhite
  · obtain ⟨⟨types, i⟩, hposition, hc⟩ := List.mem_flatMap.1 hc
    exact argument_only_notNative hbuilt h hfits (List.mem_zipIdx_iff_getElem?.1 hposition) hc
      hviolated
  · exact result_only_notNative hbuilt h hfits hc hviolated

theorem FunctionPair.NamesTwice.names (h : pair.NamesTwice type position) :
    pair.Names position type := by
  rcases position with i | _
  · exact .nativeParam h.1
  · rw [← h.1]
    exact .nativeResult

/-- **No pair can use a type that represents itself and has a rule**, in either direction;
    and where such a type stands on both sides of a position and all else fits, the pair is
    refused because the type is not a primitive of the native side. -/
theorem ruledItself_refused (hbuilt : r.Built) (h : r.RuledItself type d) :
    (∀ implementation pair position, pair.Names position type →
      ∀ b, bridgeOf r implementation pair ≠ .ok b) ∧
    ∀ implementation pair position, pair.FitsBut r position type →
      bridgeOf r implementation pair =
        .error (.signatureMismatch pair.symbol (.notNative position type)) := by
  refine ⟨fun _ _ _ hnames => not_accepted_of_names hbuilt h hnames, ?_⟩
  intro implementation pair position hfits
  rcases hb : bridgeOf r implementation pair with e | b
  · obtain ⟨c, hc, hviolated, rfl⟩ :=
      ((bridgeOf_performs r implementation pair e).1 hb).exists_mem
    rw [only_notNative_violated hbuilt h hfits hc hviolated]
  · exact absurd hb (not_accepted_of_names hbuilt h hfits.named.names b)

end

/-! ### One such type -/

namespace Demo

/-- A type that only has a rule for results, and represents itself. -/
def tokenType : TypeDescriptor := ⟨"Token", "Token", "Token::NONE", none, some "Token::check"⟩

def tokenRegistry : TypeRegistry :=
  ⟨TypeRegistry.insert tokenType.name tokenType TypeRegistry.standard.slots⟩

/-- It is an argument on both sides, against the direction of its rule. -/
def tokenPair : FunctionPair :=
  ⟨"Java_Api_use", ⟨"use", ["Token"], "jint"⟩, ⟨"use", ["Token"], "jint"⟩, true⟩

end Demo

theorem tokenPair_refused :
    Demo.tokenRegistry.Built ∧ Demo.tokenRegistry.RuledItself "Token" Demo.tokenType ∧
    Demo.tokenPair.FitsBut Demo.tokenRegistry (.parameter 0) "Token" ∧
    bridgeOf Demo.tokenRegistry "api" Demo.tokenPair =
      .error (.signatureMismatch "Java_Api_use" (.notNative (.parameter 0) "Token")) := by
  have hregistered : TypeRegistry.standard.register Demo.tokenType = .ok Demo.tokenRegistry := rfl
  have hbuilt : Demo.tokenRegistry.Built := .registered .standard hregistered
  have hruled : Demo.tokenRegistry.RuledItself "Token" Demo.tokenType :=
    ⟨rfl, rfl, .inr (by decide)⟩
  have hfits : Demo.tokenPair.FitsBut Demo.tokenRegistry (.parameter 0) "Token" := by
    refine ⟨rfl, ⟨'J', by decide, by decide⟩, ⟨rfl, rfl⟩, ?_, ?_⟩
    · rintro (_ | i) native actual hi hnative -
      · exact absurd rfl hi
      · cases hnative
    · intro _
      let jint : TypeDescriptor := .primitive "jint" "0"
      exact ⟨jint, ⟨⟨jint, rfl, rfl, rfl, rfl⟩, rfl, rfl⟩, .inr rfl⟩
  exact ⟨hbuilt, hruled, hfits, (ruledItself_refused hbuilt hruled).2 "api" _ _ hfits⟩

end NativeBridge
