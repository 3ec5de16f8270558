/-
  NativeBridge/Proofs/Extension.lean
  ==================================
  **What more types can change.**  A registry extends another if it finds everything that
  the other finds, with the same descriptor.  Generation asks a registry for names only, so
  over an extension it does the same up to the first name that was missing before.  A result
  is settled for the extension unless it reports such a name (`Settled`), and every stage
  gives a settled result again: lookups by definition, sequences by `bind_eq_of_settled`,
  and batches by induction over the pairs.
-/
import NativeBridge.Proofs.Batch
import NativeBridge.Proofs.Registration

namespace NativeBridge

/-! ### Extensions of a registry -/

namespace TypeRegistry

/-- Whatever is found in `r` is found in `r'`, with the same descriptor. -/
def Extends (r' r : TypeRegistry) : Prop :=
  ∀ name d, r.find? name = some d → r'.find? name = some d

theorem afterAll_extends (r : TypeRegistry) (ds : List TypeDescriptor) :
    (r.afterAll ds).Extends r :=
  fun _ _ hfound => find?_afterAll hfound ds

end TypeRegistry

/-! ### Settled results -/

/-- An error that a registry does not cure: it does not report a type that the registry
    has. -/
def BridgeError.Settled (r' : TypeRegistry) : BridgeError → Prop
  | .unknownType name _ => r'.find? name = none
  | _ => True

/-- A value, or an error that the registry does not cure. -/
def Settled {α : Type} (r' : TypeRegistry) (x : Except BridgeError α) : Prop :=
  ∀ e, x = .error e → e.Settled r'

section

variable {r r' : TypeRegistry} {α β : Type}

theorem settled_ok (r' : TypeRegistry) (a : α) : Settled r' (.ok a) := by
  intro e he
  cases he

theorem settled_error_iff {e : BridgeError} :
    Settled r' (.error e : Except BridgeError α) ↔ e.Settled r' := by
  simp [Settled]

theorem bind_eq_of_settled {x x' : Except BridgeError α} {f f' : α → Except BridgeError β}
    (hx : Settled r' x → x' = x) (hf : ∀ a, Settled r' (f a) → f' a = f a)
    (h : Settled r' (x >>= f)) : x' >>= f' = x >>= f := by
  cases x with
  | error e =>
    rw [hx (settled_error_iff.2 (settled_error_iff.1 h))]
    rfl
  | ok a =>
    rw [hx (settled_ok r' a)]
    exact hf a h

theorem andThen_eq_of_settled {x x' : Logged α} {f f' : α → Logged β}
    (hx : Settled r' x.result → x' = x) (hf : ∀ a, Settled r' (f a).result → f' a = f a)
    (h : Settled r' (x.andThen f).result) : x'.andThen f' = x.andThen f := by
  obtain ⟨log, result⟩ := x
  cases result with
  | error e =>
    rw [hx (settled_error_iff.2 (settled_error_iff.1 h))]
    rfl
  | ok a =>
    rw [hx (settled_ok r' a)]
    show (⟨log ++ (f' a).log, (f' a).result⟩ : Logged β) = ⟨log ++ (f a).log, (f a).result⟩
    rw [hf a h]

theorem settled_map_iff {x : Logged α} (f : α → β) :
    Settled r' (x.map f).result ↔ Settled r' x.result := by
  simp only [Settled, Logged.map_error_iff]

end

/-! ### Stages over an extension -/

section

variable {r r' : TypeRegistry} (hr : r'.Extends r)
include hr

theorem lookup_extends (name : String) (place : Option (Position × String))
    (h : Settled r' (r.lookup name place)) : r'.lookup name place = r.lookup name place := by
  cases hfound : r.find? name with
  | none =>
    have hrefused : r.lookup name place = .error (.unknownType name place) := by
      rw [TypeRegistry.lookup, hfound]
    have hmissing : r'.find? name = none := h _ hrefused
    rw [hrefused, TypeRegistry.lookup, hmissing]
  | some d => rw [TypeRegistry.lookup, TypeRegistry.lookup, hfound, hr name d hfound]

theorem descriptorAt_extends (symbol : String) (position : Position) (native actual : String)
    (h : Settled r' (descriptorAt r symbol position native actual)) :
    descriptorAt r' symbol position native actual =
      descriptorAt r symbol position native actual := by
  refine bind_eq_of_settled (lookup_extends hr native _) (fun primitive h => ?_) h
  by_cases hprimitive : primitive.isPrimitive = true
  · rw [if_pos hprimitive] at h
    rw [if_pos hprimitive, if_pos hprimitive]
    exact bind_eq_of_settled (lookup_extends hr actual _) (fun d _ => rfl) h
  · rw [if_neg hprimitive, if_neg hprimitive]

theorem argumentDescriptor_extends (symbol : String) (i : Nat) (native actual : String)
    (h : Settled r' (argumentDescriptor r symbol i native actual)) :
    argumentDescriptor r' symbol i native actual =
      argumentDescriptor r symbol i native actual :=
  bind_eq_of_settled (descriptorAt_extends hr symbol (.parameter i) native actual)
    (fun _ _ => rfl) h

theorem resultDescriptor_extends (symbol native actual : String)
    (h : Settled r' (resultDescriptor r symbol native actual)) :
    resultDescriptor r' symbol native actual = resultDescriptor r symbol native actual :=
  bind_eq_of_settled (descriptorAt_extends hr symbol .result native actual) (fun _ _ => rfl) h

theorem argumentDescriptors_extends (symbol : String) (positions : List (String × String)) :
    ∀ i, Settled r' (argumentDescriptors r symbol i positions) →
      argumentDescriptors r' symbol i positions = argumentDescriptors r symbol i positions := by
  induction positions with
  | nil =>
    intro i _
    rfl
  | cons types rest ih =>
    intro i h
    refine bind_eq_of_settled (argumentDescriptor_extends hr symbol i types.1 types.2) ?_ h
    intro d h
    exact bind_eq_of_settled (ih (i + 1)) (fun _ _ => rfl) h

theorem bridgeOf_extends (implementation : String) (pair : FunctionPair)
    (h : Settled r' (bridgeOf r implementation pair)) :
    bridgeOf r' implementation pair = bridgeOf r implementation pair := by
  refine bind_eq_of_settled (fun _ => rfl) (fun _ h => ?_) h
  refine bind_eq_of_settled (fun _ => rfl) (fun ident h => ?_) h
  refine bind_eq_of_settled (argumentDescriptors_extends hr _ _ 0) (fun arguments h => ?_) h
  exact bind_eq_of_settled (resultDescriptor_extends hr _ _ _) (fun _ _ => rfl) h

theorem loggedBridge_extends (implementation : String) (pair : FunctionPair)
    (h : Settled r' (loggedBridge r implementation pair).result) :
    loggedBridge r' implementation pair = loggedBridge r implementation pair := by
  rw [loggedBridge_result] at h
  rw [loggedBridge, loggedBridge, bridgeOf_extends hr implementation pair h]

/-- The rest of a batch, with the same names taken. -/
theorem bridgesAfter_extends (implementation : String) (pairs : List FunctionPair) :
    ∀ symbols idents, Settled r' (bridgesAfter r implementation symbols idents pairs).result →
      bridgesAfter r' implementation symbols idents pairs =
        bridgesAfter r implementation symbols idents pairs := by
  induction pairs with
  | nil =>
    intro symbols idents _
    rfl
  | cons pair rest ih =>
    intro symbols idents h
    rw [bridgesAfter] at h
    rw [bridgesAfter, bridgesAfter]
    by_cases hsymbol : symbols.contains pair.symbol = true
    · rw [if_pos hsymbol, if_pos hsymbol]
    rw [if_neg hsymbol] at h
    rw [if_neg hsymbol, if_neg hsymbol]
    refine andThen_eq_of_settled (loggedBridge_extends hr implementation pair) ?_ h
    intro b h
    by_cases hident : idents.contains b.ident = true
    · rw [if_pos hident, if_pos hident]
    rw [if_neg hident, settled_map_iff] at h
    rw [if_neg hident, if_neg hident, ih _ _ h]

/-- Over an extension a batch gets at least as far: what was logged is logged again. -/
theorem bridgesAfter_log_prefix (implementation : String) (pairs : List FunctionPair) :
    ∀ symbols idents, (bridgesAfter r implementation symbols idents pairs).log <+:
      (bridgesAfter r' implementation symbols idents pairs).log := by
  induction pairs with
  | nil =>
    intro symbols idents
    exact List.prefix_rfl
  | cons pair rest ih =>
    intro symbols idents
    rw [bridgesAfter, bridgesAfter]
    split
    · exact List.prefix_rfl
    cases hbridge : bridgeOf r implementation pair with
    | error e => simp [loggedBridge, hbridge, Logged.andThen, Logged.fail]
    | ok b =>
      have hsame : bridgeOf r' implementation pair = .ok b := by
        rw [bridgeOf_extends hr, hbridge]
        rw [hbridge]
        exact settled_ok r' b
      simp only [loggedBridge, hbridge, hsame, Logged.andThen]
      split
      · exact List.prefix_rfl
      · exact (List.prefix_append_right_inj _).2 (ih _ _)

end

/-! ### Batches over an extension -/

/-- How a batch ends over an extension, compared with how it ended before: it does the
    same, unless it was refused for a type that the extension has.  In any case what was
    logged is logged first. -/
structure OnlyCures (r r' : TypeRegistry) (implementation : String)
    (pairs : List FunctionPair) : Prop where
  accepted : ∀ bs, (bridgesOf r implementation pairs).result = .ok bs →
    bridgesOf r' implementation pairs = bridgesOf r implementation pairs
  refused : ∀ e, (bridgesOf r implementation pairs).result = .error e →
    (∀ name place, e ≠ .unknownType name place) →
      bridgesOf r' implementation pairs = bridgesOf r implementation pairs
  unknown : ∀ name place,
    (bridgesOf r implementation pairs).result = .error (.unknownType name place) →
      r'.contains name = false →
        bridgesOf r' implementation pairs = bridgesOf r implementation pairs
  logged : (bridgesOf r implementation pairs).log <+: (bridgesOf r' implementation pairs).log

/-- **Adding types only cures.**  The only thing that an extension of a registry can change
    about a batch is that a type is no longer unknown. -/
theorem extension_only_cures {r r' : TypeRegistry} (hr : r'.Extends r) (implementation : String)
    (pairs : List FunctionPair) : OnlyCures r r' implementation pairs := by
  have hsame : Settled r' (bridgesOf r implementation pairs).result →
      bridgesOf r' implementation pairs = bridgesOf r implementation pairs :=
    bridgesAfter_extends hr implementation pairs [] []
  refine ⟨?_, ?_, ?_, bridgesAfter_log_prefix hr implementation pairs [] []⟩
  · intro bs hbs
    apply hsame
    rw [hbs]
    exact settled_ok r' bs
  · intro e he hknown
    apply hsame
    rw [he, settled_error_iff]
    cases e with
    | unknownType name place => exact absurd rfl (hknown name place)
    | _ => trivial
  · intro name place hrefused hmissing
    apply hsame
    rw [hrefused, settled_error_iff]
    simpa [BridgeError.Settled, TypeRegistry.contains] using hmissing

/-- The types of the demo cure its first pair, which the standard types leave unknown. -/
theorem demoTypes_only_cure :
    Demo.registry.Extends .standard ∧
      (bridgesOf .standard "SqliteApi" [Demo.closePair]).result = .error
        (.unknownType "DbRef" (some (.parameter 0, "Java_com_example_SqliteApi_close"))) ∧
      OnlyCures .standard Demo.registry "SqliteApi" [Demo.closePair] := by
  have hextends : Demo.registry.Extends .standard :=
    TypeRegistry.afterAll_extends .standard [Demo.dbType, Demo.statusType]
  exact ⟨hextends, rfl, extension_only_cures hextends "SqliteApi" [Demo.closePair]⟩

end NativeBridge
