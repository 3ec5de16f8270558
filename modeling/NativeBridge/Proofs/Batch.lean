/-
  NativeBridge/Proofs/Batch.lean
  ==============================
  **Which batches are accepted.**  A batch is accepted exactly when every pair fits and
  neither a symbol nor an identifier comes twice, and then it is translated pair by
  pair.

  On the way through a batch two lists of taken names grow.  `bridgesAfter_ok_iff` is
  the invariant: what is left must fit, be free of repetitions and avoid what is taken.
-/
import NativeBridge.Proofs.Acceptance
import NativeBridge.Unit

namespace NativeBridge

/-! ### Logged results -/

namespace Logged

variable {α β : Type}

theorem andThen_ok_iff {x : Logged α} {f : α → Logged β} {b : β} :
    (x.andThen f).result = .ok b ↔ ∃ a, x.result = .ok a ∧ (f a).result = .ok b := by
  cases h : x.result <;> simp [andThen, h]

theorem andThen_error_iff {x : Logged α} {f : α → Logged β} {e : BridgeError} :
    (x.andThen f).result = .error e ↔
      x.result = .error e ∨ ∃ a, x.result = .ok a ∧ (f a).result = .error e := by
  cases h : x.result <;> simp [andThen, h]

theorem map_ok_iff {f : α → β} {x : Logged α} {b : β} :
    (x.map f).result = .ok b ↔ ∃ a, x.result = .ok a ∧ f a = b := by
  cases h : x.result <;> simp [map, h, Except.map]

theorem map_error_iff {f : α → β} {x : Logged α} {e : BridgeError} :
    (x.map f).result = .error e ↔ x.result = .error e := by
  cases h : x.result <;> simp [map, h, Except.map]

end Logged

theorem loggedBridge_result (r : TypeRegistry) (implementation : String)
    (pair : FunctionPair) :
    (loggedBridge r implementation pair).result = bridgeOf r implementation pair := by
  rw [loggedBridge]
  cases bridgeOf r implementation pair <;> rfl

/-! ### One pair of a batch -/

section

variable {r : TypeRegistry} {implementation : String} {symbols idents : List String}
  {pair : FunctionPair} {rest : List FunctionPair}

/-- What it takes to get past the first pair: a free symbol, a bridge, and a free
    identifier; then the rest is accepted with both names taken. -/
theorem bridgesAfter_cons_ok_iff {bs : List Bridge} :
    (bridgesAfter r implementation symbols idents (pair :: rest)).result = .ok bs ↔
      ∃ b bs', bridgeOf r implementation pair = .ok b ∧ pair.symbol ∉ symbols ∧
        b.ident ∉ idents ∧
        (bridgesAfter r implementation (pair.symbol :: symbols) (b.ident :: idents) rest).result =
          .ok bs' ∧ b :: bs' = bs := by
  rw [bridgesAfter]
  by_cases hsymbol : pair.symbol ∈ symbols
  · simp [hsymbol, Logged.fail]
  · rw [if_neg (by simpa using hsymbol), Logged.andThen_ok_iff, loggedBridge_result]
    constructor
    · rintro ⟨b, hb, h⟩
      by_cases hident : b.ident ∈ idents
      · rw [if_pos (by simpa using hident)] at h
        cases h
      · rw [if_neg (by simpa using hident)] at h
        obtain ⟨bs', hbs, hcons⟩ := Logged.map_ok_iff.1 h
        exact ⟨b, bs', hb, hsymbol, hident, hbs, hcons⟩
    · rintro ⟨b, bs', hb, -, hident, hbs, hcons⟩
      refine ⟨b, hb, ?_⟩
      rw [if_neg (by simpa using hident)]
      exact Logged.map_ok_iff.2 ⟨bs', hbs, hcons⟩

/-- How the first pair, or the rest behind it, is refused. -/
theorem bridgesAfter_cons_error {e : BridgeError}
    (h : (bridgesAfter r implementation symbols idents (pair :: rest)).result = .error e) :
    e = .duplicateSymbol pair.symbol ∨ bridgeOf r implementation pair = .error e ∨
      ∃ b, bridgeOf r implementation pair = .ok b ∧
        (e = .malformedBridge b.ident (.collision pair.symbol) ∨
          (bridgesAfter r implementation (pair.symbol :: symbols) (b.ident :: idents)
            rest).result = .error e) := by
  rw [bridgesAfter] at h
  by_cases hsymbol : symbols.contains pair.symbol = true
  · rw [if_pos hsymbol] at h
    cases h
    exact .inl rfl
  · rw [if_neg hsymbol, Logged.andThen_error_iff, loggedBridge_result] at h
    rcases h with h | ⟨b, hb, h⟩
    · exact .inr (.inl h)
    · refine .inr (.inr ⟨b, hb, ?_⟩)
      by_cases hident : idents.contains b.ident = true
      · rw [if_pos hident] at h
        cases h
        exact .inl rfl
      · rw [if_neg hident, Logged.map_error_iff] at h
        exact .inr h

end

/-! ### Whole batches -/

/-- Names that differ from each other and from those that are taken. -/
def Fresh (taken names : List String) : Prop := names.Nodup ∧ ∀ n ∈ names, n ∉ taken

theorem fresh_nil_left_iff {names : List String} : Fresh [] names ↔ names.Nodup :=
  ⟨fun h => h.1, fun h => ⟨h, fun _ _ => List.not_mem_nil⟩⟩

theorem fresh_cons_iff {taken names : List String} {n : String} :
    Fresh taken (n :: names) ↔ n ∉ taken ∧ Fresh (n :: taken) names := by
  constructor
  · rintro ⟨hnodup, hfree⟩
    obtain ⟨hn, hnames⟩ := List.nodup_cons.1 hnodup
    refine ⟨hfree n List.mem_cons_self, hnames, ?_⟩
    intro m hm htaken
    rcases List.mem_cons.1 htaken with rfl | hold
    · exact hn hm
    · exact hfree m (List.mem_cons_of_mem n hm) hold
  · rintro ⟨hn, hnames, hfree⟩
    refine ⟨List.nodup_cons.2 ⟨fun hm => hfree n hm List.mem_cons_self, hnames⟩, ?_⟩
    intro m hm
    rcases List.mem_cons.1 hm with rfl | hrest
    · exact hn
    · exact fun htaken => hfree m hrest (List.mem_cons_of_mem n htaken)

section

variable {r : TypeRegistry} {implementation : String}

theorem bridgesAfter_ok_iff {pairs : List FunctionPair} :
    ∀ {symbols idents : List String} {bs : List Bridge},
      (bridgesAfter r implementation symbols idents pairs).result = .ok bs ↔
        List.Forall₂ (fun pair b => bridgeOf r implementation pair = .ok b) pairs bs ∧
        Fresh symbols (pairs.map (·.symbol)) ∧ Fresh idents (bs.map (·.ident)) := by
  induction pairs with
  | nil =>
    intro symbols idents bs
    rw [bridgesAfter, List.forall₂_nil_left_iff]
    constructor
    · intro h
      cases h
      simp [Fresh]
    · rintro ⟨rfl, -, -⟩
      rfl
  | cons pair rest ih =>
    intro symbols idents bs
    rw [bridgesAfter_cons_ok_iff, List.forall₂_cons_left_iff, List.map_cons, fresh_cons_iff]
    constructor
    · rintro ⟨b, bs', hb, hsymbol, hident, hrest, rfl⟩
      obtain ⟨hall, hsymbols, hidents⟩ := ih.1 hrest
      exact ⟨⟨b, bs', hb, hall, rfl⟩, ⟨hsymbol, hsymbols⟩, fresh_cons_iff.2 ⟨hident, hidents⟩⟩
    · rintro ⟨⟨b, bs', hb, hall, rfl⟩, ⟨hsymbol, hsymbols⟩, hidents⟩
      obtain ⟨hident, hidents⟩ := fresh_cons_iff.1 hidents
      exact ⟨b, bs', hb, hsymbol, hident, ih.2 ⟨hall, hsymbols, hidents⟩, rfl⟩

theorem bridgesOf_ok_iff {pairs : List FunctionPair} {bs : List Bridge} :
    (bridgesOf r implementation pairs).result = .ok bs ↔
      List.Forall₂ (fun pair b => bridgeOf r implementation pair = .ok b) pairs bs ∧
      (pairs.map (·.symbol)).Nodup ∧ (bs.map (·.ident)).Nodup := by
  rw [bridgesOf, bridgesAfter_ok_iff, fresh_nil_left_iff, fresh_nil_left_iff]

/-- The identifiers of bridges are those derived from the symbols. -/
theorem map_ident_of_forall₂ {pairs : List FunctionPair} {bs : List Bridge}
    (h : List.Forall₂ (fun pair b => bridgeOf r implementation pair = .ok b) pairs bs) :
    (bs.map (·.ident)).map Except.ok = pairs.map fun pair => identifierFor pair.symbol := by
  induction h with
  | nil => rfl
  | cons hb _ ih => rw [List.map_cons, List.map_cons, List.map_cons, ih, identifierFor_of_bridgeOf hb]

/-- Bridges are exported under the symbols of their pairs. -/
theorem map_exportName_of_forall₂ {pairs : List FunctionPair} {bs : List Bridge}
    (h : List.Forall₂ (fun pair b => bridgeOf r implementation pair = .ok b) pairs bs) :
    bs.map (·.exportName) = pairs.map (·.symbol) := by
  induction h with
  | nil => rfl
  | cons hb _ ih =>
    obtain ⟨ident, arguments, result, -, rfl⟩ := bridgeOf_ok_iff.1 hb
    rw [List.map_cons, List.map_cons, ih]
    rfl

/-- The only flaw of a bridge that a batch can be refused for is a collision of
    identifiers: no draft is ever refused. -/
theorem bridgesAfter_malformed {pairs : List FunctionPair} {function : String}
    {flaw : BridgeFlaw} :
    ∀ {symbols idents : List String},
      (bridgesAfter r implementation symbols idents pairs).result =
        .error (.malformedBridge function flaw) → ∃ symbol, flaw = .collision symbol := by
  induction pairs with
  | nil => intro symbols idents h; cases h
  | cons pair rest ih =>
    intro symbols idents h
    rcases bridgesAfter_cons_error h with h | h | ⟨b, -, h | h⟩
    · cases h
    · cases bridgeOf_error h
    · cases h
      exact ⟨pair.symbol, rfl⟩
    · exact ih h

end

/-- What a batch must be: its symbols and the identifiers derived from them differ, and
    every pair fits. -/
structure BatchFits (r : TypeRegistry) (pairs : List FunctionPair) : Prop where
  symbols : (pairs.map (·.symbol)).Nodup
  idents : (pairs.map fun pair => identifierFor pair.symbol).Nodup
  fits : ∀ pair ∈ pairs, pair.Fits r

theorem bridgesOf_accepts_exactly (r : TypeRegistry) (implementation : String)
    (pairs : List FunctionPair) :
    ((∃ bs, (bridgesOf r implementation pairs).result = .ok bs) ↔ BatchFits r pairs) ∧
    (∀ bs, (bridgesOf r implementation pairs).result = .ok bs →
      List.Forall₂ (fun pair b => bridgeOf r implementation pair = .ok b) pairs bs) ∧
    (∀ function flaw, (bridgesOf r implementation pairs).result =
      .error (.malformedBridge function flaw) → ∃ symbol, flaw = .collision symbol) := by
  refine ⟨⟨?_, ?_⟩, fun bs h => (bridgesOf_ok_iff.1 h).1, fun _ _ => bridgesAfter_malformed⟩
  · rintro ⟨bs, h⟩
    obtain ⟨hall, hsymbols, hidents⟩ := bridgesOf_ok_iff.1 h
    refine ⟨hsymbols, ?_, ?_⟩
    · rw [← map_ident_of_forall₂ hall]
      exact hidents.map fun _ _ h => Except.ok.inj h
    · intro pair hpair
      have hb := exists_forall₂_iff.1 ⟨bs, hall⟩ pair hpair
      exact exists_bridgeOf_iff.1 hb
  · intro h
    have heach : ∀ pair ∈ pairs, ∃ b, bridgeOf r implementation pair = .ok b := by
      intro pair hpair
      exact exists_bridgeOf_iff.2 (h.fits pair hpair)
    obtain ⟨bs, hall⟩ := exists_forall₂_iff.2 heach
    refine ⟨bs, bridgesOf_ok_iff.2 ⟨hall, h.symbols, ?_⟩⟩
    apply List.Nodup.of_map (Except.ok (ε := BridgeError))
    rw [map_ident_of_forall₂ hall]
    exact h.idents

/-! ### Units -/

/-- The pairs of the catalog are bridged one by one. -/
theorem Catalog.bridges_of_unit {c : Catalog} {u : BridgeUnit} {r : TypeRegistry}
    (hr : c.registry = .ok r) (hu : c.unit.result = .ok u) :
    List.Forall₂ (fun pair b => bridgeOf r c.output.implementation pair = .ok b) c.pairs
      u.bridges := by
  simp only [Catalog.unit, hr] at hu
  obtain ⟨bs, hbs, rfl⟩ := Logged.map_ok_iff.1 hu
  exact (bridgesOf_ok_iff.1 hbs).1

/-- There is no unit without a registry. -/
theorem Catalog.registry_of_unit {c : Catalog} {u : BridgeUnit} (hu : c.unit.result = .ok u) :
    ∃ r, c.registry = .ok r := by
  cases hr : c.registry with
  | error e =>
    rw [Catalog.unit, hr] at hu
    cases hu
  | ok r => exact ⟨r, rfl⟩

/-- The active functions are bridged one by one. -/
theorem Catalog.bridges_of_active {c : Catalog} {u : BridgeUnit} {r : TypeRegistry}
    (hr : c.registry = .ok r) (hu : c.unit.result = .ok u) :
    List.Forall₂ (fun f b => bridgeOf r c.output.implementation f.pair = .ok b) c.active
      u.bridges := by
  have hall := bridges_of_unit hr hu
  rwa [Catalog.pairs, List.forall₂_map_left_iff] at hall

end NativeBridge
