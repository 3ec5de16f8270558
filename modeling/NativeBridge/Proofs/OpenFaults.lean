/-
  NativeBridge/Proofs/OpenFaults.lean
  ===================================
  **What a catalog that was read can still be refused for.**  Reading refuses a catalog
  exactly for its first function that lacks a symbol or a name (`flawFrom_eq_some_iff`),
  whether the function is excluded or not.

  Generation asks for the symbol once more, but of the functions that reading let pass
  none is without one.  Nor does it ever misuse a draft.  What is left is a fault of the
  types, met first (`registerAll_error`), or else one of four kinds of fault of the active
  functions: `OpenFault` lists them with what must be in the catalog for each.
-/
import NativeBridge.Proofs.FirstFault
import NativeBridge.Proofs.Reading

namespace NativeBridge

/-! ### What reading refuses -/

namespace FunctionDeclaration

/-- A function that has a symbol, and a name on its actual side. -/
def Named (f : FunctionDeclaration) : Prop := ¬ Blank f.symbol ∧ ¬ Blank f.actual.name

/-- What function number `i` lacks; of a function that lacks both, the symbol is reported. -/
inductive Lacks (f : FunctionDeclaration) (i : Nat) : CatalogFlaw → Prop
  | symbol (blank : Blank f.symbol) : f.Lacks i (.blankSymbol i)
  | name (symbol : ¬ Blank f.symbol) (blank : Blank f.actual.name) :
      f.Lacks i (.blankName i f.symbol)

theorem named_or_lacks (f : FunctionDeclaration) (i : Nat) :
    f.Named ∨ ∃ flaw, f.Lacks i flaw := by
  by_cases hsymbol : Blank f.symbol
  · exact .inr ⟨_, .symbol hsymbol⟩
  · by_cases hname : Blank f.actual.name
    · exact .inr ⟨_, .name hsymbol hname⟩
    · exact .inl ⟨hsymbol, hname⟩

theorem Lacks.not_named {f : FunctionDeclaration} {i : Nat} {flaw : CatalogFlaw}
    (h : f.Lacks i flaw) : ¬ f.Named := by
  rintro ⟨hsymbol, hname⟩
  cases h with
  | symbol blank => exact hsymbol blank
  | name _ blank => exact hname blank

theorem Lacks.unique {f : FunctionDeclaration} {i : Nat} {flaw flaw' : CatalogFlaw}
    (h : f.Lacks i flaw) (h' : f.Lacks i flaw') : flaw = flaw' := by
  cases h with
  | symbol blank =>
    cases h' with
    | symbol => rfl
    | name symbol => exact absurd blank symbol
  | name symbol =>
    cases h' with
    | symbol blank => exact absurd blank symbol
    | name => rfl

end FunctionDeclaration

namespace Catalog

section

variable {f : FunctionDeclaration} {fs : List FunctionDeclaration} {i : Nat} {flaw : CatalogFlaw}

theorem flawFrom_cons_of_named (h : f.Named) : flawFrom i (f :: fs) = flawFrom (i + 1) fs := by
  rw [flawFrom, if_neg (mt isBlank_iff.1 h.1), if_neg (mt isBlank_iff.1 h.2)]

theorem flawFrom_cons_of_lacks (h : f.Lacks i flaw) : flawFrom i (f :: fs) = some flaw := by
  cases h with
  | symbol blank => rw [flawFrom, if_pos (isBlank_iff.2 blank)]
  | name symbol blank =>
    rw [flawFrom, if_neg (mt isBlank_iff.1 symbol), if_pos (isBlank_iff.2 blank)]

/-- The first function of a list that lacks something, if they are numbered from `i` on. -/
def FirstFlawFrom (i : Nat) (fs : List FunctionDeclaration) (flaw : CatalogFlaw) : Prop :=
  ∃ k f, fs[k]? = some f ∧ (∀ g ∈ fs.take k, g.Named) ∧ f.Lacks (i + k) flaw

theorem firstFlawFrom_cons_iff : FirstFlawFrom i (f :: fs) flaw ↔
    f.Lacks i flaw ∨ f.Named ∧ FirstFlawFrom (i + 1) fs flaw := by
  have hshift (k : Nat) : i + 1 + k = i + (k + 1) := by omega
  constructor
  · rintro ⟨k, g, hk, hbefore, hlacks⟩
    cases k with
    | zero =>
      obtain rfl : f = g := Option.some.inj hk
      exact .inl hlacks
    | succ k =>
      rw [List.take_succ_cons, List.forall_mem_cons] at hbefore
      refine .inr ⟨hbefore.1, k, g, hk, hbefore.2, ?_⟩
      rwa [hshift]
  · rintro (hlacks | ⟨hnamed, k, g, hk, hbefore, hlacks⟩)
    · exact ⟨0, f, rfl, List.forall_mem_nil _, hlacks⟩
    · rw [hshift] at hlacks
      refine ⟨k + 1, g, hk, ?_, hlacks⟩
      rw [List.take_succ_cons, List.forall_mem_cons]
      exact ⟨hnamed, hbefore⟩

/-- The flaw of a list is that of its first function that lacks something. -/
theorem flawFrom_eq_some_iff : flawFrom i fs = some flaw ↔ FirstFlawFrom i fs flaw := by
  induction fs generalizing i with
  | nil => simp [flawFrom, FirstFlawFrom]
  | cons f fs ih =>
    rw [firstFlawFrom_cons_iff]
    rcases f.named_or_lacks i with hnamed | ⟨flaw', hlacks⟩
    · have hnone : ¬ f.Lacks i flaw := fun hlacks => hlacks.not_named hnamed
      rw [flawFrom_cons_of_named hnamed, ih]
      simp [hnamed, hnone]
    · rw [flawFrom_cons_of_lacks hlacks]
      constructor
      · intro h
        cases h
        exact .inl hlacks
      · rintro (hlacks' | ⟨hnamed, -⟩)
        · rw [hlacks.unique hlacks']
        · exact absurd hnamed hlacks.not_named

theorem named_of_flawFrom (h : flawFrom i fs = none) : ∀ f ∈ fs, f.Named := by
  induction fs generalizing i with
  | nil => exact List.forall_mem_nil _
  | cons f fs ih =>
    rcases f.named_or_lacks i with hnamed | ⟨flaw, hlacks⟩
    · rw [flawFrom_cons_of_named hnamed] at h
      exact List.forall_mem_cons.2 ⟨hnamed, ih h⟩
    · rw [flawFrom_cons_of_lacks hlacks] at h
      cases h

end

section

variable {c c' : Catalog} {text : String} {entries : Toml.Table} {e : BridgeError}

/-- The first function of a catalog that lacks something, and what it is. -/
def FirstFlaw (c : Catalog) (flaw : CatalogFlaw) : Prop :=
  ∃ k f, c.functions[k]? = some f ∧ (∀ g ∈ c.functions.take k, g.Named) ∧ f.Lacks k flaw

theorem checked_ok_iff : c.checked = .ok c' ↔ c' = c ∧ ∀ f ∈ c.functions, f.Named := by
  rw [checked]
  constructor
  · intro h
    split at h
    · cases h
    · rename_i hnone
      exact ⟨(Except.ok.inj h).symm, named_of_flawFrom hnone⟩
  · rintro ⟨rfl, hnamed⟩
    rw [flawFrom_eq_none 0 hnamed]

theorem checked_error_iff :
    c.checked = .error e ↔ ∃ flaw, c.FirstFlaw flaw ∧ e = .invalidCatalog flaw := by
  have hflaw (flaw : CatalogFlaw) : c.FirstFlaw flaw ↔ flawFrom 0 c.functions = some flaw := by
    simp only [flawFrom_eq_some_iff, FirstFlawFrom, Nat.zero_add, FirstFlaw]
  simp only [hflaw, checked]
  cases flawFrom 0 c.functions with
  | none => simp
  | some flaw => simp [eq_comm]

theorem parse_eq_checked (htable : Toml.parse text = some entries)
    (hcatalog : ofTable entries = .ok c) : parse text = c.checked := by
  simp only [parse, htable, hcatalog]

/-- Whatever is read is what it is after the check, so all its functions are named. -/
theorem named_of_parse (h : parse text = .ok c) : ∀ f ∈ c.functions, f.Named := by
  rw [parse] at h
  split at h
  · cases h
  split at h
  · cases h
  · obtain ⟨rfl, hnamed⟩ := checked_ok_iff.1 h
    exact hnamed

end

end Catalog

/-! ### What registration refuses -/

/-- Faults of types: one of them is flawed, or bears a name that is taken. -/
inductive TypeFault (types : List TypeDescriptor) : BridgeError → Prop
  | invalid {d : TypeDescriptor} (declared : d ∈ types) {flaw : DescriptorFlaw}
      (flawed : d.flaw = some flaw) : TypeFault types (.invalidDescriptor d.name flaw)
  | duplicate {d : TypeDescriptor} (declared : d ∈ types) :
      TypeFault types (.duplicateType d.name)

section

variable {types : List TypeDescriptor} {r : TypeRegistry} {e : BridgeError}

theorem TypeFault.cons (h : TypeFault types e) (d : TypeDescriptor) :
    TypeFault (d :: types) e := by
  cases h with
  | invalid declared flawed => exact .invalid (List.mem_cons_of_mem d declared) flawed
  | duplicate declared => exact .duplicate (List.mem_cons_of_mem d declared)

theorem typeFault_of_register {d : TypeDescriptor} (declared : d ∈ types)
    (h : r.register d = .error e) : TypeFault types e := by
  rw [TypeRegistry.register] at h
  split at h
  · rename_i flaw hflaw
    cases h
    exact .invalid declared hflaw
  · split at h
    · cases h
      exact .duplicate declared
    · cases h

theorem registerAll_error (h : r.registerAll types = .error e) : TypeFault types e := by
  induction types generalizing r with
  | nil => cases h
  | cons d types ih =>
    rw [TypeRegistry.registerAll] at h
    cases hregister : r.register d with
    | ok r' =>
      simp only [hregister] at h
      exact (ih h).cons d
    | error e' =>
      simp only [hregister] at h
      cases h
      exact typeFault_of_register List.mem_cons_self hregister

end

/-! ### What generation refuses -/

section

variable {r : TypeRegistry} {earlier : List FunctionPair} {pair : FunctionPair} {e : BridgeError}

/-- No check of a position is about the symbol. -/
theorem positionChecks_error (symbol : String) (position : Position) (native actual : String) :
    ∀ c ∈ positionChecks r symbol position native actual,
      ∀ s, c.error ≠ .signatureMismatch s .blankSymbol := by
  simp [positionChecks]

/-- Only one check of a pair has to do with a blank symbol. -/
theorem blank_of_pairChecks {c : Check} {symbol : String} (hc : c ∈ pairChecks r pair)
    (hviolated : ¬ c.holds) (herror : c.error = .signatureMismatch symbol .blankSymbol) :
    Blank pair.symbol := by
  rw [pairChecks, List.cons_append, List.cons_append, List.mem_cons, List.mem_cons,
    List.mem_append] at hc
  rcases hc with rfl | rfl | hc | hc
  · cases herror
  · exact not_not.1 hviolated
  · obtain ⟨⟨⟨native, actual⟩, i⟩, -, hc⟩ := List.mem_flatMap.1 hc
    rcases List.mem_append.1 hc with hc | hc
    · exact absurd herror (positionChecks_error _ _ _ _ c hc symbol)
    · rw [List.mem_singleton.1 hc] at herror
      cases herror
  · rw [resultChecks, List.mem_append, List.mem_singleton] at hc
    rcases hc with hc | rfl
    · exact absurd herror (positionChecks_error _ _ _ _ c hc symbol)
    · cases herror

/-- **Faults of active functions**, with what each of them says about the catalog: two
    functions, of which one is behind the other, or a single one. -/
inductive OpenFault (r : TypeRegistry) (active : List FunctionDeclaration) : BridgeError → Prop
  | duplicateSymbol {f g : FunctionDeclaration} (functions : [f, g].Sublist active)
      (same : f.symbol = g.symbol) : OpenFault r active (.duplicateSymbol g.symbol)
  | unknownType {f : FunctionDeclaration} (function : f ∈ active) {position : Position}
      {name : String} (named : f.pair.Names position name) (missing : r.find? name = none) :
      OpenFault r active (.unknownType name (some (position, f.symbol)))
  | mismatch {f : FunctionDeclaration} (function : f ∈ active) {mismatch : Mismatch}
      (other : mismatch ≠ .blankSymbol) :
      OpenFault r active (.signatureMismatch f.symbol mismatch)
  | collision {f g : FunctionDeclaration} (functions : [f, g].Sublist active)
      (different : f.symbol ≠ g.symbol) {ident : String}
      (first : identifierFor f.symbol = .ok ident)
      (second : identifierFor g.symbol = .ok ident) :
      OpenFault r active (.malformedBridge ident (.collision g.symbol))

variable {before after : List FunctionDeclaration} {f : FunctionDeclaration}

/-- The checks of a named function, behind those in front of it, leave these faults open. -/
theorem openFault_of_firstViolated (hsymbol : ¬ Blank f.symbol)
    (h : FirstViolated (batchChecks r (before.map (·.pair)) f.pair) e) :
    OpenFault r (before ++ f :: after) e := by
  have hf : f ∈ before ++ f :: after := List.mem_append_right _ List.mem_cons_self
  have hpair {g : FunctionDeclaration} (hg : g ∈ before) :
      [g, f].Sublist (before ++ f :: after) :=
    (List.singleton_sublist.2 hg).append (List.singleton_sublist.2 List.mem_cons_self)
  obtain ⟨c, hc, hviolated, rfl⟩ := h.exists_mem
  rw [batchChecks, List.cons_append, List.mem_cons, List.mem_append, List.mem_singleton] at hc
  rcases hc with rfl | hc | rfl
  · obtain ⟨g, hg, hsame⟩ : ∃ g ∈ before, g.pair.symbol = f.pair.symbol := by
      simpa using hviolated
    exact .duplicateSymbol (hpair hg) hsame
  · cases pairChecks_isOf c hc with
    | mismatch _ mismatch =>
      apply OpenFault.mismatch hf
      rintro rfl
      exact hsymbol (blank_of_pairChecks hc hviolated rfl)
    | unknown named => exact .unknownType hf named (not_not.1 hviolated)
  · obtain ⟨-, hident, -, p, hp, hdifferent, hsame⟩ := collision_of_firstViolated h
    obtain ⟨g, hg, rfl⟩ := List.mem_map.1 hp
    exact .collision (hpair hg) hdifferent hsame hident

theorem openFault_of_error {implementation : String} {active : List FunctionDeclaration}
    (hsymbols : ∀ f ∈ active, ¬ Blank f.symbol)
    (h : (bridgesOf r implementation (active.map (·.pair))).result = .error e) :
    OpenFault r active e := by
  obtain ⟨earlier, pair, rest, hsplit, hviolated⟩ := exists_firstViolated_of_error h
  obtain ⟨before, behind, rfl, rfl, hbehind⟩ := List.map_eq_append_iff.1 hsplit
  obtain ⟨f, after, rfl, rfl, -⟩ := List.map_eq_cons_iff.1 hbehind
  apply openFault_of_firstViolated _ hviolated
  apply hsymbols
  exact List.mem_append_right _ List.mem_cons_self

end

/-! ### What is left open -/

namespace Catalog

variable {c : Catalog} {r : TypeRegistry} {e : BridgeError}

theorem unit_of_registry_error (h : c.registry = .error e) : c.unit.result = .error e := by
  simp only [unit, h, Logged.fail]

theorem openFault_of_unit_error (hnamed : ∀ f ∈ c.functions, f.Named)
    (hr : c.registry = .ok r) (h : c.unit.result = .error e) : OpenFault r c.active e := by
  simp only [unit, hr, Logged.map_error_iff] at h
  apply openFault_of_error _ h
  intro f hf
  exact (hnamed f (List.mem_of_mem_filter hf)).1

/-- A unit fails for a type or, with all types in order, for a function. -/
theorem unit_error_cases (hnamed : ∀ f ∈ c.functions, f.Named)
    (h : c.unit.result = .error e) :
    c.registry = .error e ∧ TypeFault c.types e ∨
      ∃ r, c.registry = .ok r ∧ OpenFault r c.active e := by
  cases hr : c.registry with
  | error e' =>
    obtain rfl : e' = e := Except.error.inj ((unit_of_registry_error hr).symm.trans h)
    exact .inl ⟨rfl, registerAll_error hr⟩
  | ok r => exact .inr ⟨r, rfl, openFault_of_unit_error hnamed hr h⟩

/-- **How the unit of a catalog can fail**: for its types, exactly if they cannot be
    registered, and otherwise for its active functions.  What reading has seen to does not
    come up again, and no error is without its place. -/
structure OnlyOpenFaults (c : Catalog) : Prop where
  types : ∀ e, c.registry = .error e → c.unit.result = .error e ∧ TypeFault c.types e
  types_iff : (∃ e, c.registry = .error e) ↔
    (∃ name flaw, c.unit.result = .error (.invalidDescriptor name flaw)) ∨
      ∃ name, c.unit.result = .error (.duplicateType name)
  functions : ∀ r e, c.registry = .ok r → c.unit.result = .error e → OpenFault r c.active e
  symbol : ∀ symbol, c.unit.result ≠ .error (.signatureMismatch symbol .blankSymbol)
  place : ∀ name, c.unit.result ≠ .error (.unknownType name none)
  draft : ∀ function flaw, c.unit.result = .error (.malformedBridge function flaw) →
    ∃ symbol, flaw = .collision symbol
  catalog : ∀ flaw, c.unit.result ≠ .error (.invalidCatalog flaw)
  document : ∀ fault, c.unit.result ≠ .error (.document fault)
  file : ∀ fault, c.unit.result ≠ .error (.file fault)

theorem onlyOpenFaults (hnamed : ∀ f ∈ c.functions, f.Named) : c.OnlyOpenFaults := by
  have hcases {e : BridgeError} (h : c.unit.result = .error e) :
      TypeFault c.types e ∨ ∃ r, OpenFault r c.active e := by
    rcases unit_error_cases hnamed h with ⟨-, hfault⟩ | ⟨r, -, hfault⟩
    · exact .inl hfault
    · exact .inr ⟨r, hfault⟩
  constructor
  case types =>
    intro e he
    exact ⟨unit_of_registry_error he, registerAll_error he⟩
  case types_iff =>
    constructor
    · rintro ⟨e, he⟩
      cases registerAll_error he with
      | invalid => exact .inl ⟨_, _, unit_of_registry_error he⟩
      | duplicate => exact .inr ⟨_, unit_of_registry_error he⟩
    · rintro (⟨name, flaw, h⟩ | ⟨name, h⟩)
      all_goals
        rcases unit_error_cases hnamed h with ⟨he, -⟩ | ⟨r, -, hfault⟩
        · exact ⟨_, he⟩
        · cases hfault
  case functions =>
    intro r e hr h
    exact openFault_of_unit_error hnamed hr h
  case symbol =>
    intro symbol h
    rcases hcases h with hfault | ⟨r, hfault⟩
    · cases hfault
    · cases hfault with
      | mismatch _ other => exact other rfl
  case draft =>
    intro function flaw h
    rcases hcases h with hfault | ⟨r, hfault⟩
    · cases hfault
    · cases hfault with
      | collision => exact ⟨_, rfl⟩
  all_goals
    intro _ h
    rcases hcases h with hfault | ⟨r, hfault⟩ <;> cases hfault

/-- **What reading leaves open.**  A text that has the form of a catalog is read exactly if
    all its functions are named, and otherwise refused for the first that is not; and the
    unit of a catalog that was read fails only for what reading does not look at. -/
theorem reading_leaves_openFaults :
    (∀ text entries c, Toml.parse text = some entries → ofTable entries = .ok c →
      ((∃ c', parse text = .ok c') ↔ ∀ f ∈ c.functions, f.Named) ∧
      (∀ c', parse text = .ok c' → c' = c) ∧
      ∀ e, parse text = .error e ↔ ∃ flaw, c.FirstFlaw flaw ∧ e = .invalidCatalog flaw) ∧
    ∀ text c, parse text = .ok c → c.OnlyOpenFaults := by
  constructor
  · intro text entries c htable hcatalog
    rw [parse_eq_checked htable hcatalog]
    refine ⟨?_, ?_, ?_⟩
    · constructor
      · rintro ⟨c', h⟩
        exact (checked_ok_iff.1 h).2
      · intro hnamed
        exact ⟨c, checked_ok_iff.2 ⟨rfl, hnamed⟩⟩
    · intro c' h
      exact (checked_ok_iff.1 h).1
    · intro e
      exact checked_error_iff
  · intro text c h
    exact onlyOpenFaults (named_of_parse h)

end Catalog

namespace Demo

/-- The second function has no name on its actual side. -/
def namelessText : String := "functions = [['f', ['f'], ['f']], ['g', ['g'], [' ']]]"

def namelessTable : Toml.Table :=
  [("functions", .list [
    .list [.text "f", .list [.text "f"], .list [.text "f"]],
    .list [.text "g", .list [.text "g"], .list [.text " "]]])]

/-- Two symbols that come to the same identifier. -/
def twinsText : String := "functions = [['a.b', ['f'], ['f']], ['a-b', ['f'], ['f']]]"

/-- A function without parameters or result, the same on both sides. -/
def bare (symbol nativeName name : String) : FunctionDeclaration :=
  ⟨symbol, ⟨nativeName, [], unitType⟩, ⟨name, [], unitType⟩, true, false⟩

def namelessCatalog : Catalog := ⟨.standard, [], [bare "f" "f" "f", bare "g" "g" " "]⟩

def twins : Catalog := ⟨.standard, [], [bare "a.b" "f" "f", bare "a-b" "f" "f"]⟩

theorem openFaults_occur :
    (Toml.parse namelessText = some namelessTable ∧
      Catalog.ofTable namelessTable = .ok namelessCatalog ∧
      Catalog.parse namelessText = .error (.invalidCatalog (.blankName 1 "g"))) ∧
    Catalog.parse twinsText = .ok twins ∧ twins.registry = .ok .standard ∧
      twins.unit.result = .error (.malformedBridge "a_b" (.collision "a-b")) ∧
      OpenFault .standard twins.active (.malformedBridge "a_b" (.collision "a-b")) := by
  have htable : Toml.parse namelessText = some namelessTable := by
    cbv
  have hcatalog : Catalog.ofTable namelessTable = .ok namelessCatalog := rfl
  have hflaw : namelessCatalog.FirstFlaw (.blankName 1 "g") := by
    refine ⟨1, bare "g" "g" " ", rfl, ?_, ?_⟩
    · simp only [FunctionDeclaration.Named, ← isBlank_iff]
      decide
    · apply FunctionDeclaration.Lacks.name <;> rw [← isBlank_iff] <;> decide
  have hnameless := (Catalog.reading_leaves_openFaults.1 _ _ _ htable hcatalog).2.2
  have htwins : Catalog.parse twinsText = .ok twins := by
    decide +kernel
  have hfails : twins.unit.result = .error (.malformedBridge "a_b" (.collision "a-b")) := by
    decide +kernel
  have hopen := (Catalog.reading_leaves_openFaults.2 _ _ htwins).functions .standard _ rfl hfails
  exact ⟨⟨htable, hcatalog, (hnameless _).2 ⟨_, hflaw, rfl⟩⟩, htwins, rfl, hfails, hopen⟩

end Demo

end NativeBridge
