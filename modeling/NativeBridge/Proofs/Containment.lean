/-
  NativeBridge/Proofs/Containment.lean
  ====================================
  **Containment holds at every depth.**  `Body.Ends` says rule by rule how a body ends
  and what it has logged by then: failures and panics go up until a scope swallows them,
  and passing the error of a contained body on turns a panic into a failure.  A run is
  exactly that (`ends_iff_run`), so every body ends, and in one way.

  The scopes of a body lie one inside the other, and the log is read off them: from the
  innermost outwards, one event for each whose own body does not give a value
  (`run_log`).
-/
import Mathlib.Logic.Function.Iterate
import NativeBridge.Boundary.Body

namespace NativeBridge

namespace Body

variable {α : Type}

/-! ### How bodies end -/

/-- A body ends with a log and an outcome. -/
inductive Ends (ofText : String → α) (ofBytes : List UInt8 → α) :
    Body α → List Event → Outcome α → Prop
  | succeeds (a : α) : Ends ofText ofBytes (.succeed a) [] (.done a)
  | fails (chain : List String) : Ends ofText ofBytes (.fail chain) [] (.failed chain)
  | panics (p : Payload) : Ends ofText ofBytes (.panic p) [] (.panicked p)
  | kept {env : EnvHandle} {default a : α} {b : Body α} {log : List Event}
      (h : Ends ofText ofBytes b log (.done a)) :
      Ends ofText ofBytes (.scope env default b) log (.done a)
  | swallowed_failure {env : EnvHandle} {default : α} {b : Body α} {log : List Event}
      {chain : List String} (h : Ends ofText ofBytes b log (.failed chain)) :
      Ends ofText ofBytes (.scope env default b)
        (log ++ [.contained env.address ("bridged call failed: " ++ ": ".intercalate chain)])
        (.done default)
  | swallowed_panic {env : EnvHandle} {default : α} {b : Body α} {log : List Event}
      {p : Payload} (h : Ends ofText ofBytes b log (.panicked p)) :
      Ends ofText ofBytes (.scope env default b)
        (log ++ [.contained env.address ("bridged call panicked: " ++ p.message)]) (.done default)
  | passed {a : α} {b : Body α} {log : List Event} (h : Ends ofText ofBytes b log (.done a)) :
      Ends ofText ofBytes (.propagate b) log (.done a)
  | passed_failure {b : Body α} {log : List Event} {chain : List String}
      (h : Ends ofText ofBytes b log (.failed chain)) :
      Ends ofText ofBytes (.propagate b) log
        (.failed ["bridged call failed: " ++ ": ".intercalate chain])
  | passed_panic {b : Body α} {log : List Event} {p : Payload}
      (h : Ends ofText ofBytes b log (.panicked p)) :
      Ends ofText ofBytes (.propagate b) log (.failed ["bridged call panicked: " ++ p.message])
  | reads {handle : NativeString} {s : String} (h : textOfNative handle = .ok s) :
      Ends ofText ofBytes (.readString handle) [] (.done (ofText s))
  | misreads {handle : NativeString} {e : ConversionFault} (h : textOfNative handle = .error e) :
      Ends ofText ofBytes (.readString handle) [] (.failed e.chain)
  | writes {s : String} {bs : List UInt8} (h : nativeOfText s = .ok bs) :
      Ends ofText ofBytes (.writeString s) [] (.done (ofBytes bs))
  | miswrites {s : String} {e : ConversionFault} (h : nativeOfText s = .error e) :
      Ends ofText ofBytes (.writeString s) [] (.failed e.chain)

variable {τ : Type} {ofText : String → α} {ofBytes : List UInt8 → α} {b : Body α}
  {log : List Event} {o : Outcome α}

theorem Ends.contained {r : Run τ α} (h : b.Ends ofText ofBytes r.log r.outcome)
    (env : EnvHandle) (default : α) :
    (scope env default b).Ends ofText ofBytes (r.contained env default).log
      (r.contained env default).outcome := by
  obtain ⟨calls, log, a | chain | p⟩ := r
  · exact .kept h
  · exact .swallowed_failure h
  · exact .swallowed_panic h

theorem Ends.propagated {r : Run τ α} (h : b.Ends ofText ofBytes r.log r.outcome) :
    (propagate b).Ends ofText ofBytes r.propagated.log r.propagated.outcome := by
  obtain ⟨calls, log, a | chain | p⟩ := r
  · exact .passed h
  · exact .passed_failure h
  · exact .passed_panic h

theorem ends_run (τ : Type) (ofText : String → α) (ofBytes : List UInt8 → α) (b : Body α) :
    b.Ends ofText ofBytes (b.run ofText ofBytes : Run τ α).log
      (b.run ofText ofBytes : Run τ α).outcome := by
  induction b with
  | succeed a => exact .succeeds a
  | fail chain => exact .fails chain
  | panic p => exact .panics p
  | scope env default b ih => exact ih.contained env default
  | propagate b ih => exact ih.propagated
  | readString handle =>
    rw [run]
    cases h : textOfNative handle with
    | ok s => exact .reads h
    | error e => exact .misreads h
  | writeString s =>
    rw [run]
    cases h : nativeOfText s with
    | ok bs => exact .writes h
    | error e => exact .miswrites h

theorem run_of_ends (h : b.Ends ofText ofBytes log o) :
    (b.run ofText ofBytes : Run τ α) = ⟨[], log, o⟩ := by
  induction h with
  | succeeds a => rfl
  | fails chain => rfl
  | panics p => rfl
  | kept h ih => rw [run, ih]; rfl
  | swallowed_failure h ih => rw [run, ih]; rfl
  | swallowed_panic h ih => rw [run, ih]; rfl
  | passed h ih => rw [run, ih]; rfl
  | passed_failure h ih => rw [run, ih]; rfl
  | passed_panic h ih => rw [run, ih]; rfl
  | reads h => rw [run, h]; rfl
  | misreads h => rw [run, h]; rfl
  | writes h => rw [run, h]; rfl
  | miswrites h => rw [run, h]; rfl

/-- Running a body is going by the rules; it makes no calls. -/
theorem ends_iff_run :
    b.Ends ofText ofBytes log o ↔ (b.run ofText ofBytes : Run τ α) = ⟨[], log, o⟩ := by
  refine ⟨run_of_ends, fun h => ?_⟩
  have hends := ends_run τ ofText ofBytes b
  rw [h] at hends
  exact hends

/-! ### Scopes -/

/-- A containment scope: where it reports to, what it falls back on, and what it holds. -/
structure Scope (α : Type) where
  env : EnvHandle
  default : α
  held : Body α

def Scope.body (s : Scope α) : Body α := .scope s.env s.default s.held

/-- The parts of a body, the whole among them. -/
inductive Part (c : Body α) : Body α → Prop
  | whole : Part c c
  | held {env : EnvHandle} {default : α} {b : Body α} (h : Part c b) :
      Part c (.scope env default b)
  | passed {b : Body α} (h : Part c b) : Part c (.propagate b)

/-- The scopes of a body, from the innermost outwards. -/
def scopes : Body α → List (Scope α)
  | .scope env default b => b.scopes ++ [⟨env, default, b⟩]
  | .propagate b => b.scopes
  | _ => []

theorem mem_scopes_iff {s : Scope α} : s ∈ b.scopes ↔ Part s.body b := by
  induction b with
  | scope env default b ih =>
    rw [scopes, List.mem_append, ih, List.mem_singleton]
    constructor
    · rintro (h | rfl)
      · exact .held h
      · exact .whole
    · intro h
      cases h with
      | whole => exact .inr rfl
      | held h => exact .inl h
  | propagate b ih =>
    rw [scopes, ih]
    refine ⟨.passed, fun h => ?_⟩
    cases h with
    | passed h => exact h
  | succeed | fail | panic | readString | writeString =>
    refine ⟨fun h => by simp [scopes] at h, fun h => ?_⟩
    cases h

/-- Of two scopes the one that comes first is held by the other. -/
theorem scopes_nested (b : Body α) :
    b.scopes.Pairwise fun inner outer => Part inner.body outer.held := by
  induction b with
  | scope env default b ih =>
    rw [scopes, List.pairwise_append]
    refine ⟨ih, List.pairwise_singleton _ _, fun inner hinner outer houter => ?_⟩
    rw [List.mem_singleton.1 houter]
    exact mem_scopes_iff.1 hinner
  | propagate b ih => exact ih
  | succeed | fail | panic | readString | writeString => exact .nil

/-! ### The log -/

/-- What containing a body gives: its value, or the error that stands for its end. -/
def contain (ofText : String → α) (ofBytes : List UInt8 → α) (b : Body α) :
    Except BoundaryError α :=
  (b.run ofText ofBytes : Run Empty α).outcome.toExcept

theorem contain_of_ends (h : b.Ends ofText ofBytes log o) :
    b.contain ofText ofBytes = o.toExcept := by
  rw [contain, run_of_ends h]

theorem run_toExcept : (b.run ofText ofBytes : Run τ α).outcome.toExcept =
    b.contain ofText ofBytes :=
  (contain_of_ends (ends_run τ ofText ofBytes b)).symm

/-- What a scope reports: the error of what it holds, if there is one. -/
def Scope.event (ofText : String → α) (ofBytes : List UInt8 → α) (s : Scope α) : Option Event :=
  match s.held.contain ofText ofBytes with
  | .ok _ => none
  | .error e => some (.contained s.env.address e.message)

theorem run_log : (b.run ofText ofBytes : Run τ α).log =
    b.scopes.filterMap (Scope.event ofText ofBytes) := by
  induction b with
  | scope env default b ih =>
    rw [run, Run.contained_log, ih, run_toExcept, scopes, List.filterMap_append]
    congr 1
    cases hended : b.contain ofText ofBytes <;> simp [Scope.event, hended]
  | propagate b ih =>
    rw [scopes, ← ih, run, Run.propagated]
    cases (b.run ofText ofBytes : Run τ α).outcome.toExcept <;> rfl
  | succeed | fail | panic => rfl
  | readString handle => rw [run]; cases textOfNative handle <;> rfl
  | writeString s => rw [run]; cases nativeOfText s <;> rfl

/-! ### Passing errors on -/

theorem contain_propagate : (propagate b).contain ofText ofBytes =
    match b.contain ofText ofBytes with
    | .ok a => .ok a
    | .error e => .error (.failed [e.message]) := by
  rw [contain, run, Run.propagated, run_toExcept]
  cases b.contain ofText ofBytes <;> rfl

theorem failed_message (chain : List String) :
    (BoundaryError.failed chain).message = "bridged call failed: " ++ ": ".intercalate chain := rfl

theorem contain_propagated_ok {a : α} (h : b.contain ofText ofBytes = .ok a) (n : Nat) :
    (propagate^[n] b).contain ofText ofBytes = .ok a := by
  induction n with
  | zero => exact h
  | succ n ih => rw [Function.iterate_succ_apply', contain_propagate, ih]

theorem contain_propagated_error {e : BoundaryError} (h : b.contain ofText ofBytes = .error e)
    (n : Nat) :
    ∃ e', (propagate^[n] b).contain ofText ofBytes = .error e' ∧
      e'.message = ("bridged call failed: " ++ ·)^[n] e.message := by
  induction n with
  | zero => exact ⟨e, h, rfl⟩
  | succ n ih =>
    obtain ⟨e', hended, hmessage⟩ := ih
    refine ⟨.failed [e'.message], ?_, ?_⟩
    · rw [Function.iterate_succ_apply', contain_propagate, hended]
    · rw [Function.iterate_succ_apply', ← hmessage, failed_message, String.intercalate_singleton]

theorem scopes_propagated (n : Nat) : (propagate^[n] b).scopes = b.scopes := by
  induction n with
  | zero => rfl
  | succ n ih => rw [Function.iterate_succ_apply', scopes, ih]

/-! ### Containment -/

theorem scope_outcome (env : EnvHandle) (default : α) :
    ((scope env default b).run ofText ofBytes : Run τ α).outcome =
      match b.contain ofText ofBytes with
      | .ok a => .done a
      | .error _ => .done default := by
  rw [run, Run.contained, run_toExcept]
  cases b.contain ofText ofBytes <;> rfl

theorem ends_of_contain_ok {a : α} (h : b.contain ofText ofBytes = .ok a) :
    ∃ log, b.Ends ofText ofBytes log (.done a) := by
  have hends := ends_run Empty ofText ofBytes b
  rw [contain] at h
  cases hended : (b.run ofText ofBytes : Run Empty α).outcome with
  | done a' =>
    rw [hended] at h hends
    cases h
    exact ⟨_, hends⟩
  | failed chain =>
    rw [hended] at h
    cases h
  | panicked p =>
    rw [hended] at h
    cases h

theorem event_level {s : Scope α} {e : Event} (h : s.event ofText ofBytes = some e) :
    e.level = .warn := by
  rw [Scope.event] at h
  split at h
  · cases h
  · cases h
    rfl

/-- What containment makes of a body.  Its run is the one way it ends by the rules.  In a
    scope it gives its value, or exactly the default.  The log has one warning for each
    scope, inner ones first, whose own body gives no value, and passing errors on adds
    none.  What is passed on keeps its value, or gains a prefix for each time. -/
structure Contained (τ : Type) (ofText : String → α) (ofBytes : List UInt8 → α) (b : Body α) :
    Prop where
  runs : ∀ log o,
    b.Ends ofText ofBytes log o ↔ (b.run ofText ofBytes : Run τ α) = ⟨[], log, o⟩
  value : ∀ log a env default, b.Ends ofText ofBytes log (.done a) →
    ((scope env default b).run ofText ofBytes : Run τ α).outcome = .done a
  fallback : ∀ env default, (∀ log a, ¬ b.Ends ofText ofBytes log (.done a)) →
    ((scope env default b).run ofText ofBytes : Run τ α).outcome = .done default
  every_scope : ∀ s, s ∈ b.scopes ↔ Part s.body b
  inner_first : b.scopes.Pairwise fun inner outer => Part inner.body outer.held
  logged : (b.run ofText ofBytes : Run τ α).log =
    b.scopes.filterMap (Scope.event ofText ofBytes)
  warned : ∀ e ∈ (b.run ofText ofBytes : Run τ α).log, e.level = .warn
  silent : ∀ n, ((propagate^[n] b).run ofText ofBytes : Run τ α).log =
    (b.run ofText ofBytes : Run τ α).log
  succeeded : ∀ log a, b.Ends ofText ofBytes log (.done a) → b.contain ofText ofBytes = .ok a
  failed : ∀ log chain, b.Ends ofText ofBytes log (.failed chain) →
    b.contain ofText ofBytes = .error (.failed chain) ∧
      (BoundaryError.failed chain).message = "bridged call failed: " ++ ": ".intercalate chain
  panicked : ∀ log p, b.Ends ofText ofBytes log (.panicked p) →
    b.contain ofText ofBytes = .error (.panicked p.message) ∧
      (BoundaryError.panicked p.message).message = "bridged call panicked: " ++
        match p with
        | .fixed text => text
        | .made text => text
        | .other => "non-string panic payload"
  passed_value : ∀ n a, b.contain ofText ofBytes = .ok a →
    (propagate^[n] b).contain ofText ofBytes = .ok a
  passed_error : ∀ n e, b.contain ofText ofBytes = .error e →
    ∃ e', (propagate^[n] b).contain ofText ofBytes = .error e' ∧
      e'.message = ("bridged call failed: " ++ ·)^[n] e.message

/-- **Containment is total and compositional**, for every body. -/
theorem body_isContained (τ : Type) (ofText : String → α) (ofBytes : List UInt8 → α)
    (b : Body α) : Contained τ ofText ofBytes b where
  runs _ _ := ends_iff_run
  value log a env default h := by
    rw [scope_outcome, contain_of_ends h]
    rfl
  fallback env default h := by
    rw [scope_outcome]
    cases hended : b.contain ofText ofBytes with
    | ok a =>
      obtain ⟨log, hends⟩ := ends_of_contain_ok hended
      exact absurd hends (h log a)
    | error e => rfl
  every_scope _ := mem_scopes_iff
  inner_first := scopes_nested b
  logged := run_log
  warned e h := by
    rw [run_log] at h
    obtain ⟨s, -, hevent⟩ := List.mem_filterMap.1 h
    exact event_level hevent
  silent n := by rw [run_log, run_log, scopes_propagated]
  succeeded _ _ h := contain_of_ends h
  failed _ chain h := ⟨contain_of_ends h, failed_message chain⟩
  panicked _ p h := by
    refine ⟨contain_of_ends h, ?_⟩
    cases p <;> rfl
  passed_value n _ h := contain_propagated_ok h n
  passed_error n _ h := contain_propagated_error h n

/-- A panic passed on twice within a scope. -/
example : (scope ⟨8⟩ 0 (propagate (propagate (panic (.fixed "boom")))) : Body Nat).run
      String.length List.length =
    (⟨[], [.contained 8 "bridged call failed: bridged call failed: bridged call panicked: boom"],
      .done 0⟩ : Run Empty Nat) := by
  rfl

end Body

end NativeBridge
