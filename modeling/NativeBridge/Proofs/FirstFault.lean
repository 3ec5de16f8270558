/-
  NativeBridge/Proofs/FirstFault.lean
  ===================================
  **A batch is refused for its first fault.**  `batchChecks` lists what a pair must pass
  behind the pairs before it, in order, each check with its error; `FirstViolated` is the
  error of the first one that does not hold.  Every stage of generation performs its part
  of the list (`Performs`), and so does a pair as a whole (`bridgeOf_performs`).

  Going through a batch, a pair is either refused, whatever comes behind it, or built and
  logged (`bridgesAfter_cons_cases`).  By induction, a batch is built to the end, or it is
  built up to one pair and refused there (`bridgesAfter_cases`).
-/
import NativeBridge.Proofs.Batch
import NativeBridge.Proofs.Registration

namespace NativeBridge

/-! ### Checks -/

/-- What must hold, and the error if it does not. -/
structure Check where
  holds : Prop
  error : BridgeError

/-- The error of the first check in a list that does not hold. -/
inductive FirstViolated : List Check → BridgeError → Prop
  | here {c : Check} {cs : List Check} (violated : ¬ c.holds) :
      FirstViolated (c :: cs) c.error
  | later {c : Check} {cs : List Check} {e : BridgeError} (passed : c.holds)
      (rest : FirstViolated cs e) : FirstViolated (c :: cs) e

section

variable {c : Check} {cs ds : List Check} {e : BridgeError}

theorem firstViolated_cons_iff :
    FirstViolated (c :: cs) e ↔ ¬ c.holds ∧ e = c.error ∨ c.holds ∧ FirstViolated cs e := by
  constructor
  · intro h
    cases h with
    | here violated => exact .inl ⟨violated, rfl⟩
    | later passed rest => exact .inr ⟨passed, rest⟩
  · rintro (⟨violated, rfl⟩ | ⟨passed, rest⟩)
    · exact .here violated
    · exact .later passed rest

theorem firstViolated_append_iff :
    FirstViolated (cs ++ ds) e ↔
      FirstViolated cs e ∨ (∀ c ∈ cs, c.holds) ∧ FirstViolated ds e := by
  induction cs with
  | nil =>
    constructor
    · intro h
      exact .inr ⟨List.forall_mem_nil _, h⟩
    · rintro (h | ⟨-, h⟩)
      · cases h
      · exact h
  | cons c cs ih =>
    rw [List.cons_append, firstViolated_cons_iff, firstViolated_cons_iff, ih,
      List.forall_mem_cons]
    tauto

/-- Checks are violated, or all of them hold. -/
theorem exists_firstViolated_iff : (∃ e, FirstViolated cs e) ↔ ¬ ∀ c ∈ cs, c.holds := by
  induction cs with
  | nil =>
    constructor
    · rintro ⟨e, h⟩
      cases h
    · intro h
      exact absurd (List.forall_mem_nil _) h
  | cons c cs ih =>
    simp only [firstViolated_cons_iff, exists_or, exists_and_left, exists_eq, and_true, ih,
      List.forall_mem_cons]
    tauto

theorem FirstViolated.exists_mem (h : FirstViolated cs e) :
    ∃ c ∈ cs, ¬ c.holds ∧ c.error = e := by
  induction h with
  | here violated => exact ⟨_, List.mem_cons_self, violated, rfl⟩
  | later _ _ ih =>
    obtain ⟨c, hc, hviolated⟩ := ih
    exact ⟨c, List.mem_cons_of_mem _ hc, hviolated⟩

end

/-! ### What a pair must pass -/

/-- The checks at a position: of the native type, and of what stands for it. -/
def positionChecks (r : TypeRegistry) (symbol : String) (position : Position)
    (native actual : String) : List Check :=
  [⟨r.find? native ≠ none, .unknownType native (some (position, symbol))⟩,
   ⟨r.HasPrimitive native, .signatureMismatch symbol (.notNative position native)⟩,
   ⟨r.find? actual ≠ none, .unknownType actual (some (position, symbol))⟩,
   ⟨(r.find? actual).map (·.native) = some native,
    .signatureMismatch symbol (.representation position actual
      (((r.find? actual).map (·.native)).getD "") native)⟩]

def argumentChecks (r : TypeRegistry) (symbol : String) (i : Nat) (native actual : String) :
    List Check :=
  positionChecks r symbol (.parameter i) native actual ++
    [⟨∃ d, r.find? actual = some d ∧ (d.fromNative ≠ none ∨ d.name = d.native),
      .signatureMismatch symbol (.noFromNative i actual)⟩]

def resultChecks (r : TypeRegistry) (symbol native actual : String) : List Check :=
  positionChecks r symbol .result native actual ++
    [⟨∃ d, r.find? actual = some d ∧ (d.toNative ≠ none ∨ d.name = d.native),
      .signatureMismatch symbol (.noToNative actual)⟩]

/-- The checks of a pair on its own: its two heads, then the parameters from left to
    right, and the result last. -/
def pairChecks (r : TypeRegistry) (pair : FunctionPair) : List Check :=
  ⟨pair.native.params.length = pair.actual.params.length, .signatureMismatch pair.symbol
    (.arity pair.native.params.length pair.actual.name pair.actual.params.length)⟩ ::
  ⟨¬ Blank pair.symbol, .signatureMismatch pair.symbol .blankSymbol⟩ ::
  (pair.positions.zipIdx.flatMap fun ((native, actual), i) =>
    argumentChecks r pair.symbol i native actual) ++
  resultChecks r pair.symbol pair.native.returns pair.actual.returns

/-- The checks of a pair behind earlier ones: its symbol first, its identifier last. -/
def batchChecks (r : TypeRegistry) (earlier : List FunctionPair) (pair : FunctionPair) :
    List Check :=
  ⟨∀ p ∈ earlier, p.symbol ≠ pair.symbol, .duplicateSymbol pair.symbol⟩ ::
  pairChecks r pair ++
  [⟨∀ p ∈ earlier, identifierFor p.symbol ≠ identifierFor pair.symbol, .malformedBridge
    (String.ofList (identifierChars pair.symbol.toList)) (.collision pair.symbol)⟩]

/-! ### Stages that perform checks -/

/-- A stage is refused exactly for the first of the checks that is violated. -/
def Performs {α : Type} (x : Except BridgeError α) (cs : List Check) : Prop :=
  ∀ e, x = .error e ↔ FirstViolated cs e

section

variable {α β : Type} {x : Except BridgeError α} {f : α → Except BridgeError β}
  {cs ds : List Check}

theorem performs_ok (a : α) : Performs (.ok a) [] := by
  intro e
  constructor
  · intro h
    cases h
  · intro h
    cases h

theorem Performs.exists_ok_iff (h : Performs x cs) :
    (∃ a, x = .ok a) ↔ ∀ c ∈ cs, c.holds := by
  rw [← not_iff_not, ← exists_firstViolated_iff]
  simp only [← h _]
  cases x <;> simp

theorem Performs.bind (h : Performs x cs) (hf : ∀ a, x = .ok a → Performs (f a) ds) :
    Performs (x >>= f) (cs ++ ds) := by
  intro e
  rw [bind_error_iff, firstViolated_append_iff, h e, ← h.exists_ok_iff]
  apply or_congr_right
  constructor
  · rintro ⟨a, ha, hfa⟩
    exact ⟨⟨a, ha⟩, (hf a ha e).1 hfa⟩
  · rintro ⟨⟨a, ha⟩, hviolated⟩
    exact ⟨a, ha, (hf a ha e).2 hviolated⟩

/-- A test in front of a stage is one check more. -/
theorem performs_test {p holds : Prop} [Decidable p] {e : BridgeError} (hp : p ↔ holds)
    (h : p → Performs x cs) : Performs (if p then x else .error e) (⟨holds, e⟩ :: cs) := by
  intro e'
  rw [firstViolated_cons_iff]
  split
  · rename_i hpassed
    simp [← hp, hpassed, h hpassed e']
  · rename_i hviolated
    simp [← hp, hviolated, eq_comm]

end

section

variable {r : TypeRegistry} {symbol native actual : String}

theorem lookup_performs (name : String) (place : Option (Position × String)) :
    Performs (r.lookup name place) [⟨r.find? name ≠ none, .unknownType name place⟩] := by
  intro e
  rw [firstViolated_cons_iff, TypeRegistry.lookup]
  cases hfound : r.find? name with
  | none => simp [eq_comm]
  | some d =>
    simp only [ne_eq, reduceCtorEq, not_false_eq_true, not_true_eq_false, false_and, true_and,
      false_or, false_iff]
    intro h
    cases h

theorem descriptorAt_performs (symbol : String) (position : Position) (native actual : String) :
    Performs (descriptorAt r symbol position native actual)
      (positionChecks r symbol position native actual) := by
  rw [descriptorAt]
  refine (lookup_performs native _).bind fun primitive hprimitive => ?_
  have hnative := lookup_ok_iff.1 hprimitive
  refine performs_test ?_ fun _ => ?_
  · simp [TypeRegistry.HasPrimitive, hnative, TypeDescriptor.isPrimitive_iff]
  refine (lookup_performs actual _).bind fun d hd => ?_
  rw [lookup_ok_iff.1 hd]
  exact performs_test (by simp) fun _ => performs_ok d

/-- A descriptor is found out by the checks of a position; one more looks for a rule. -/
theorem performs_way {position : Position} {way : TypeDescriptor → Prop}
    {wayIn : TypeDescriptor → Bool} (hway : ∀ d, wayIn d = true ↔ way d) (refusal : BridgeError) :
    Performs (descriptorAt r symbol position native actual >>= fun d =>
        if wayIn d then .ok d else .error refusal)
      (positionChecks r symbol position native actual ++
        [⟨∃ d, r.find? actual = some d ∧ way d, refusal⟩]) := by
  refine (descriptorAt_performs symbol position native actual).bind fun d hd => ?_
  refine performs_test ?_ fun _ => performs_ok d
  have hfound := (descriptorAt_ok_iff.1 hd).found
  simp [hfound, hway]

theorem argumentDescriptor_performs (symbol : String) (i : Nat) (native actual : String) :
    Performs (argumentDescriptor r symbol i native actual)
      (argumentChecks r symbol i native actual) := by
  apply performs_way
  simp [TypeDescriptor.convertsArguments, TypeDescriptor.representsItself,
    Option.isSome_iff_ne_none]

theorem resultDescriptor_performs (symbol native actual : String) :
    Performs (resultDescriptor r symbol native actual) (resultChecks r symbol native actual) := by
  apply performs_way
  simp [TypeDescriptor.convertsResults, TypeDescriptor.representsItself,
    Option.isSome_iff_ne_none]

theorem argumentDescriptors_performs (symbol : String) (positions : List (String × String)) :
    ∀ i, Performs (argumentDescriptors r symbol i positions)
      ((positions.zipIdx i).flatMap fun ((native, actual), i) =>
        argumentChecks r symbol i native actual) := by
  induction positions with
  | nil =>
    intro i
    exact performs_ok []
  | cons types rest ih =>
    intro i
    rw [argumentDescriptors, List.zipIdx_cons, List.flatMap_cons]
    refine (argumentDescriptor_performs symbol i types.1 types.2).bind fun d _ => ?_
    rw [← List.append_nil (List.flatMap ..)]
    exact (ih (i + 1)).bind fun ds _ => performs_ok (d :: ds)

theorem matchArity_performs (pair : FunctionPair) :
    Performs pair.matchArity
      [⟨pair.native.params.length = pair.actual.params.length, .signatureMismatch pair.symbol
        (.arity pair.native.params.length pair.actual.name pair.actual.params.length)⟩] :=
  performs_test .rfl fun _ => performs_ok ()

theorem identifierFor_performs (symbol : String) :
    Performs (identifierFor symbol)
      [⟨¬ Blank symbol, .signatureMismatch symbol .blankSymbol⟩] := by
  rw [identifierFor, ← ite_not]
  exact performs_test (not_congr isBlank_iff) fun _ => performs_ok _

/-- Generation of a pair is refused for the first check of the pair that is violated. -/
theorem bridgeOf_performs (r : TypeRegistry) (implementation : String) (pair : FunctionPair) :
    Performs (bridgeOf r implementation pair) (pairChecks r pair) := by
  rw [bridgeOf, pairChecks, List.cons_append, List.cons_append]
  refine (matchArity_performs pair).bind fun _ _ => ?_
  refine (identifierFor_performs pair.symbol).bind fun ident _ => ?_
  refine (argumentDescriptors_performs pair.symbol pair.positions 0).bind fun arguments _ => ?_
  rw [← List.append_nil (resultChecks ..)]
  refine (resultDescriptor_performs _ _ _).bind fun result _ => ?_
  rw [buildBridge_eq]
  exact performs_ok _

end

/-! ### Going through a batch -/

/-- What a refused pair leaves in the log: nothing, unless its bridge was built and its
    identifier is taken. -/
def loggedBefore (pair : FunctionPair) : BridgeError → List Event
  | .malformedBridge _ _ => [pair.generatedEvent]
  | _ => []

/-- The taken names are those of the earlier pairs. -/
structure Taken (earlier : List FunctionPair) (symbols idents : List String) : Prop where
  symbols : ∀ symbol, symbol ∈ symbols ↔ ∃ p ∈ earlier, p.symbol = symbol
  idents : ∀ ident, ident ∈ idents ↔ ∃ p ∈ earlier, identifierFor p.symbol = .ok ident

theorem taken_nil : Taken [] [] [] := by
  constructor <;> simp

section

variable {ident : String} {earlier : List FunctionPair} {pair : FunctionPair}
  {symbols idents : List String}

theorem Taken.concat (h : Taken earlier symbols idents)
    (hident : identifierFor pair.symbol = .ok ident) :
    Taken (earlier ++ [pair]) (pair.symbol :: symbols) (ident :: idents) := by
  constructor
  · intro symbol
    simp [h.symbols, or_and_right, exists_or, or_comm, eq_comm]
  · intro other
    simp [h.idents, or_and_right, exists_or, or_comm, hident, eq_comm]

theorem ident_eq_of_identifierFor {symbol : String} (h : identifierFor symbol = .ok ident) :
    ident = String.ofList (identifierChars symbol.toList) := by
  rw [identifierFor] at h
  split at h
  · cases h
  · exact (Except.ok.inj h).symm

theorem loggedBefore_eq_nil {e : BridgeError}
    (h : ∀ function flaw, e ≠ .malformedBridge function flaw) : loggedBefore pair e = [] := by
  rw [loggedBefore]
  exact h

theorem eq_generatedEvent_of_mem {e : BridgeError} {event : Event}
    (h : event ∈ loggedBefore pair e) : event = pair.generatedEvent := by
  unfold loggedBefore at h
  split at h
  · exact List.mem_singleton.1 h
  · cases h

/-- A pair in a batch is refused, whatever comes behind it, or it is built and logged and
    both its names are taken from there on. -/
theorem bridgesAfter_cons_cases (r : TypeRegistry) (implementation : String)
    (htaken : Taken earlier symbols idents) (pair : FunctionPair) :
    (∃ e, FirstViolated (batchChecks r earlier pair) e ∧
      ∀ rest, bridgesAfter r implementation symbols idents (pair :: rest) =
        ⟨loggedBefore pair e, .error e⟩) ∨
    ∃ b : Bridge, identifierFor pair.symbol = .ok b.ident ∧
      ∀ rest, bridgesAfter r implementation symbols idents (pair :: rest) =
        ⟨pair.generatedEvent ::
            (bridgesAfter r implementation (pair.symbol :: symbols) (b.ident :: idents) rest).log,
          (bridgesAfter r implementation (pair.symbol :: symbols) (b.ident :: idents)
            rest).result.map (b :: ·)⟩ := by
  have hperforms := bridgeOf_performs r implementation pair
  by_cases hsymbol : pair.symbol ∈ symbols
  · refine .inl ⟨.duplicateSymbol pair.symbol, .here ?_, fun rest => ?_⟩
    · obtain ⟨p, hp, hsame⟩ := (htaken.symbols _).1 hsymbol
      exact fun hfree => hfree p hp hsame
    · rw [bridgesAfter, if_pos (by simpa using hsymbol)]
      rfl
  have hfree : ∀ p ∈ earlier, p.symbol ≠ pair.symbol :=
    fun p hp hsame => hsymbol ((htaken.symbols _).2 ⟨p, hp, hsame⟩)
  have hnew : ¬ symbols.contains pair.symbol = true := by simpa using hsymbol
  cases hbridge : bridgeOf r implementation pair with
  | error e =>
    have hviolated : FirstViolated (pairChecks r pair) e := (hperforms e).1 hbridge
    refine .inl ⟨e, .later hfree (firstViolated_append_iff.2 (.inl hviolated)), fun rest => ?_⟩
    have hempty : loggedBefore pair e = [] := by
      cases bridgeOf_error hbridge <;> rfl
    rw [bridgesAfter, if_neg hnew, hempty]
    simp [loggedBridge, hbridge, Logged.fail, Logged.andThen]
  | ok b =>
    have hident := identifierFor_of_bridgeOf hbridge
    by_cases hcollides : b.ident ∈ idents
    · refine .inl ⟨.malformedBridge b.ident (.collision pair.symbol), .later hfree ?_, ?_⟩
      · obtain ⟨p, hp, hsame⟩ := (htaken.idents _).1 hcollides
        refine firstViolated_append_iff.2 (.inr ⟨hperforms.exists_ok_iff.1 ⟨b, hbridge⟩, ?_⟩)
        rw [ident_eq_of_identifierFor hident]
        exact .here fun hfresh => hfresh p hp (hsame.trans hident.symm)
      · intro rest
        rw [bridgesAfter, if_neg hnew]
        simp [loggedBridge, hbridge, Logged.fail, Logged.andThen, hcollides, loggedBefore]
    · refine .inr ⟨b, hident, fun rest => ?_⟩
      rw [bridgesAfter, if_neg hnew]
      simp [loggedBridge, hbridge, Logged.andThen, hcollides, Logged.map]

/-- A batch is built to its end, or up to one pair, which is refused whatever comes behind
    it.  What is built is logged. -/
theorem bridgesAfter_cases (r : TypeRegistry) (implementation : String)
    (pairs : List FunctionPair) (htaken : Taken earlier symbols idents) :
    (∃ bs, bridgesAfter r implementation symbols idents pairs =
      ⟨pairs.map (·.generatedEvent), .ok bs⟩) ∨
    ∃ built pair rest e, pairs = built ++ pair :: rest ∧
      (∃ bs, (bridgesAfter r implementation symbols idents built).result = .ok bs) ∧
      FirstViolated (batchChecks r (earlier ++ built) pair) e ∧
      ∀ rest, bridgesAfter r implementation symbols idents (built ++ pair :: rest) =
        ⟨built.map (·.generatedEvent) ++ loggedBefore pair e, .error e⟩ := by
  induction pairs generalizing earlier symbols idents with
  | nil => exact .inl ⟨[], rfl⟩
  | cons pair pairs ih =>
    rcases bridgesAfter_cons_cases r implementation htaken pair with
      ⟨e, hviolated, hrefused⟩ | ⟨b, hident, hbuilt⟩
    · refine .inr ⟨[], pair, pairs, e, rfl, ⟨[], rfl⟩, ?_, hrefused⟩
      rwa [List.append_nil]
    · rcases ih (htaken.concat hident) with ⟨bs, hdone⟩ |
        ⟨built, pair', rest, e, rfl, ⟨bs, hbs⟩, hviolated, hrefused⟩
      · exact .inl ⟨b :: bs, by rw [hbuilt, hdone]; rfl⟩
      · refine .inr ⟨pair :: built, pair', rest, e, rfl, ⟨b :: bs, ?_⟩, ?_, fun rest => ?_⟩
        · rw [hbuilt, hbs]
          rfl
        · rwa [List.append_assoc] at hviolated
        · rw [List.cons_append, hbuilt, hrefused]
          rfl

end

/-! ### What errors carry -/

/-- The types that a pair names, with where it does. -/
inductive FunctionPair.Names (pair : FunctionPair) : Position → String → Prop
  | nativeParam {i : Nat} {type : String} (h : pair.native.params[i]? = some type) :
      pair.Names (.parameter i) type
  | actualParam {i : Nat} {type : String} (h : pair.actual.params[i]? = some type) :
      pair.Names (.parameter i) type
  | nativeResult : pair.Names .result pair.native.returns
  | actualResult : pair.Names .result pair.actual.returns

/-- The error of a check is a mismatch of a pair, or it reports a type that the pair names
    and the check finds missing.  Both carry the symbol of the pair. -/
inductive Check.IsOf (r : TypeRegistry) (pair : FunctionPair) : Check → Prop
  | mismatch (holds : Prop) (mismatch : Mismatch) :
      Check.IsOf r pair ⟨holds, .signatureMismatch pair.symbol mismatch⟩
  | unknown {position : Position} {name : String} (named : pair.Names position name) :
      Check.IsOf r pair
        ⟨r.find? name ≠ none, .unknownType name (some (position, pair.symbol))⟩

section

variable {r : TypeRegistry} {pair : FunctionPair} {native actual : String}

theorem positionChecks_isOf {position : Position} (hnative : pair.Names position native)
    (hactual : pair.Names position actual) :
    ∀ c ∈ positionChecks r pair.symbol position native actual, c.IsOf r pair := by
  simp only [positionChecks, List.forall_mem_cons]
  exact ⟨.unknown hnative, .mismatch _ _, .unknown hactual, .mismatch _ _,
    List.forall_mem_nil _⟩

theorem argumentChecks_isOf {i : Nat} (h : pair.positions[i]? = some (native, actual)) :
    ∀ c ∈ argumentChecks r pair.symbol i native actual, c.IsOf r pair := by
  obtain ⟨hnative, hactual⟩ := List.getElem?_zip_eq_some.1 h
  rw [argumentChecks, List.forall_mem_append, List.forall_mem_singleton]
  exact ⟨positionChecks_isOf (.nativeParam hnative) (.actualParam hactual), .mismatch _ _⟩

theorem resultChecks_isOf :
    ∀ c ∈ resultChecks r pair.symbol pair.native.returns pair.actual.returns,
      c.IsOf r pair := by
  rw [resultChecks, List.forall_mem_append, List.forall_mem_singleton]
  exact ⟨positionChecks_isOf .nativeResult .actualResult, .mismatch _ _⟩

theorem pairChecks_isOf : ∀ c ∈ pairChecks r pair, c.IsOf r pair := by
  simp only [pairChecks, List.cons_append, List.forall_mem_cons, List.forall_mem_append]
  refine ⟨.mismatch _ _, .mismatch _ _, ?_, resultChecks_isOf⟩
  intro c hc
  obtain ⟨⟨⟨native, actual⟩, i⟩, hposition, hc⟩ := List.mem_flatMap.1 hc
  exact argumentChecks_isOf (List.mem_zipIdx_iff_getElem?.1 hposition) c hc

end

/-! ### The first fault -/

section

variable {r : TypeRegistry} {implementation : String} {earlier pairs : List FunctionPair}
  {pair : FunctionPair} {e : BridgeError}

/-- The first pairs of a list are accepted as a batch. -/
def AcceptedUpTo (r : TypeRegistry) (implementation : String) (pairs : List FunctionPair)
    (k : Nat) : Prop :=
  ∃ bs, (bridgesOf r implementation (pairs.take k)).result = .ok bs

/-- How a batch is refused: at the first pair that is not accepted with those before it,
    and for the first check of it that is violated.  An error about a type or a mismatch
    carries the symbol of the pair, and one about a type also says where the pair names
    it.  The log has an event for each bridge that was built, up to the last. -/
structure RefusedAt (r : TypeRegistry) (implementation : String) (pairs : List FunctionPair)
    (e : BridgeError) (k : Nat) (pair : FunctionPair) : Prop where
  found : pairs[k]? = some pair
  accepted : AcceptedUpTo r implementation pairs k
  refused : ¬ AcceptedUpTo r implementation pairs (k + 1)
  least : ∀ j, AcceptedUpTo r implementation pairs j →
    ¬ AcceptedUpTo r implementation pairs (j + 1) → k ≤ j
  violated : FirstViolated (batchChecks r (pairs.take k) pair) e
  unknown : ∀ name place, e = .unknownType name place → r.find? name = none ∧
    ∃ position, pair.Names position name ∧ place = some (position, pair.symbol)
  mismatched : ∀ symbol mismatch, e = .signatureMismatch symbol mismatch → symbol = pair.symbol
  logged : (∀ function flaw, e ≠ .malformedBridge function flaw) →
    (bridgesOf r implementation pairs).log = (pairs.take k).map fun p =>
      .generated p.symbol p.actual.name p.native.params.length
  collided : ∀ function flaw, e = .malformedBridge function flaw →
    (bridgesOf r implementation pairs).log = (pairs.take (k + 1)).map fun p =>
      .generated p.symbol p.actual.name p.native.params.length
  debug : ∀ event ∈ (bridgesOf r implementation pairs).log,
    event.level = .debug ∧ event.message = "generated bridge"

/-- A violated check of a pair in a batch is one of the pair alone, or its error is about
    the symbol or the identifier. -/
theorem batchChecks_error (h : FirstViolated (batchChecks r earlier pair) e) :
    (e = .duplicateSymbol pair.symbol ∨ ∃ ident flaw, e = .malformedBridge ident flaw) ∨
    ∃ c : Check, c.IsOf r pair ∧ ¬ c.holds ∧ c.error = e := by
  obtain ⟨c, hc, hviolated, rfl⟩ := h.exists_mem
  rw [batchChecks, List.cons_append, List.mem_cons, List.mem_append, List.mem_singleton] at hc
  rcases hc with rfl | hc | rfl
  · exact .inl (.inl rfl)
  · exact .inr ⟨c, pairChecks_isOf c hc, hviolated, rfl⟩
  · exact .inl (.inr ⟨_, _, rfl⟩)

theorem unknown_of_firstViolated {name : String} {place : Option (Position × String)}
    (h : FirstViolated (batchChecks r earlier pair) (.unknownType name place)) :
    r.find? name = none ∧
      ∃ position, pair.Names position name ∧ place = some (position, pair.symbol) := by
  rcases batchChecks_error h with (h | ⟨_, _, h⟩) | ⟨c, hof, hviolated, herror⟩
  · cases h
  · cases h
  cases hof with
  | mismatch => cases herror
  | unknown named =>
    cases herror
    exact ⟨not_not.1 hviolated, _, named, rfl⟩

theorem symbol_of_firstViolated {symbol : String} {mismatch : Mismatch}
    (h : FirstViolated (batchChecks r earlier pair) (.signatureMismatch symbol mismatch)) :
    symbol = pair.symbol := by
  rcases batchChecks_error h with (h | ⟨_, _, h⟩) | ⟨c, hof, -, herror⟩
  · cases h
  · cases h
  cases hof with
  | mismatch => exact (BridgeError.signatureMismatch.inj herror).1.symm
  | unknown => cases herror

/-- An identifier collides only behind a pair with another symbol, once the pair has passed
    all other checks. -/
theorem collision_of_firstViolated {function : String} {flaw : BridgeFlaw}
    (h : FirstViolated (batchChecks r earlier pair) (.malformedBridge function flaw)) :
    ¬ Blank pair.symbol ∧ identifierFor pair.symbol = .ok function ∧
      flaw = .collision pair.symbol ∧
      ∃ p ∈ earlier, p.symbol ≠ pair.symbol ∧ identifierFor p.symbol = .ok function := by
  rw [batchChecks, List.cons_append, firstViolated_cons_iff, firstViolated_append_iff] at h
  rcases h with ⟨-, h⟩ | ⟨hfree, h | ⟨hpassed, h⟩⟩
  · cases h
  · obtain ⟨c, hc, -, herror⟩ := h.exists_mem
    cases pairChecks_isOf c hc <;> cases herror
  · have hblank : ¬ Blank pair.symbol := by
      apply hpassed ⟨¬ Blank pair.symbol, _⟩
      exact List.mem_cons_of_mem _ List.mem_cons_self
    have hident : identifierFor pair.symbol =
        .ok (String.ofList (identifierChars pair.symbol.toList)) := by
      rw [identifierFor, if_neg (mt isBlank_iff.1 hblank)]
    rcases firstViolated_cons_iff.1 h with ⟨htaken, herror⟩ | ⟨-, h⟩
    · cases herror
      obtain ⟨p, hp, hsame⟩ : ∃ p ∈ earlier,
          identifierFor p.symbol = identifierFor pair.symbol := by
        simpa using htaken
      exact ⟨hblank, hident, rfl, p, hp, hfree p hp, hsame.trans hident⟩
    · cases h

/-- A batch that fails is refused at one of its pairs, for the first check which that pair
    violates behind those before it. -/
theorem exists_firstViolated_of_error
    (h : (bridgesOf r implementation pairs).result = .error e) :
    ∃ earlier pair rest, pairs = earlier ++ pair :: rest ∧
      FirstViolated (batchChecks r earlier pair) e := by
  rcases bridgesAfter_cases r implementation pairs taken_nil with
    ⟨bs, hdone⟩ | ⟨built, pair, rest, e', rfl, -, hviolated, hrefused⟩
  · rw [bridgesOf, hdone] at h
    cases h
  · rw [bridgesOf, hrefused] at h
    cases h
    exact ⟨built, pair, rest, rfl, hviolated⟩

/-- What is accepted together is accepted up to any of its pairs. -/
theorem AcceptedUpTo.mono {j k : Nat} (h : AcceptedUpTo r implementation pairs k)
    (hjk : j ≤ k) : AcceptedUpTo r implementation pairs j := by
  rcases bridgesAfter_cases r implementation (pairs.take j) taken_nil with
    ⟨bs, hdone⟩ | ⟨built, pair, rest, e, hsplit, -, -, hrefused⟩
  · exact ⟨bs, congrArg Logged.result hdone⟩
  · obtain ⟨bs, hbs⟩ := h
    rw [← Nat.add_sub_cancel' hjk, List.take_add, hsplit, List.append_assoc, List.cons_append,
      bridgesOf, hrefused] at hbs
    cases hbs

/-- **The first fault.**  A batch that fails is refused at its first pair that is not
    accepted behind those before it, with the error of the first check which that pair
    violates; the log has the bridges before it, and its own only if it was built and then
    collides with an earlier one. -/
theorem refusal_reports_firstFault (h : (bridgesOf r implementation pairs).result = .error e) :
    ∃ k pair, RefusedAt r implementation pairs e k pair := by
  rcases bridgesAfter_cases r implementation pairs taken_nil with
    ⟨bs, hdone⟩ | ⟨built, pair, rest, e', rfl, hbuilt, hviolated, hrefused⟩
  · rw [bridgesOf, hdone] at h
    cases h
  have hrun : bridgesOf r implementation (built ++ pair :: rest) =
    ⟨built.map (·.generatedEvent) ++ loggedBefore pair e', .error e'⟩ := hrefused rest
  obtain rfl : e' = e := Except.error.inj ((congrArg Logged.result hrun).symm.trans h)
  rw [List.nil_append] at hviolated
  have htake : (built ++ pair :: rest).take built.length = built := List.take_left
  have htake' : (built ++ pair :: rest).take (built.length + 1) = built ++ [pair] := by
    rw [List.take_length_add_append, List.take_succ_cons, List.take_zero]
  have haccepted : AcceptedUpTo r implementation (built ++ pair :: rest) built.length := by
    rwa [AcceptedUpTo, htake]
  refine ⟨built.length, pair, ?_⟩
  constructor
  case found => simp
  case accepted => exact haccepted
  case refused =>
    rintro ⟨bs, hbs⟩
    rw [htake', bridgesOf, hrefused] at hbs
    cases hbs
  case least =>
    intro j _ hj
    by_contra hlt
    exact hj (haccepted.mono (by omega))
  case violated => rwa [htake]
  case unknown =>
    rintro name place rfl
    exact unknown_of_firstViolated hviolated
  case mismatched =>
    rintro symbol mismatch rfl
    exact symbol_of_firstViolated hviolated
  case logged =>
    intro hbefore
    rw [hrun, htake, loggedBefore_eq_nil hbefore, List.append_nil]
    rfl
  case collided =>
    rintro function flaw rfl
    rw [hrun, htake', List.map_append]
    rfl
  case debug =>
    intro event hevent
    rw [hrun, List.mem_append, List.mem_map] at hevent
    rcases hevent with ⟨p, -, rfl⟩ | hevent
    · exact ⟨rfl, rfl⟩
    · rw [eq_generatedEvent_of_mem hevent]
      exact ⟨rfl, rfl⟩

end

/-- A second `close` whose symbol comes to the identifier of the first, in front of the
    same symbol once more: the identifier is reported, and both are logged. -/
def Demo.collidingPairs : List FunctionPair :=
  let dotted := { closePair with symbol := "Java_com_example_SqliteApi.close" }
  [closePair, dotted, dotted]

theorem collidingPairs_refused :
    (bridgesOf Demo.registry "SqliteApi" Demo.collidingPairs).result =
        .error (.malformedBridge "Java_com_example_SqliteApi_close"
          (.collision "Java_com_example_SqliteApi.close")) ∧
      ∃ k pair, RefusedAt Demo.registry "SqliteApi" Demo.collidingPairs
        (.malformedBridge "Java_com_example_SqliteApi_close"
          (.collision "Java_com_example_SqliteApi.close")) k pair := by
  have hrefused : (bridgesOf Demo.registry "SqliteApi" Demo.collidingPairs).result =
      .error (.malformedBridge "Java_com_example_SqliteApi_close"
        (.collision "Java_com_example_SqliteApi.close")) := by
    decide +kernel
  exact ⟨hrefused, refusal_reports_firstFault hrefused⟩

end NativeBridge
