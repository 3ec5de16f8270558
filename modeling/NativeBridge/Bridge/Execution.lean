/-
  NativeBridge/Bridge/Execution.lean
  ==================================
  **What a bridge does.**  A bridge is executed on an assignment of values to names,
  given a meaning of the paths it calls: the prologue first, then the scope.  A binding
  is seen by the statements behind it; a failure leaves the scope where the call
  propagates; a panic always leaves it; and the scope turns both into its default.

  `executeAll_append` says that statements are executed one after the other, and
  `execute_outcome` that a bridge whose prologue succeeds always returns.
-/
import NativeBridge.Boundary.Scope
import NativeBridge.Bridge.Basic

namespace NativeBridge

/-! ### Meanings and assignments -/

/-- What the paths, constants and handles of a bridge stand for, over values `α` and
    calls `τ` that are recorded. -/
structure Meaning (τ α : Type) where
  /-- What a path does when it is called on values. -/
  call : String → List α → Run τ α
  constant : String → α
  handle : α → EnvHandle

/-- A call as a record: the path, and the values it was called on. -/
structure PathCall (α : Type) where
  callee : String
  args : List α
  deriving DecidableEq, Repr

/-- The meaning in which every call is recorded before it is answered. -/
def Meaning.recorded {α : Type} (reply : String → List α → Outcome α) (constant : String → α)
    (handle : α → EnvHandle) : Meaning (PathCall α) α where
  call callee args := ⟨[⟨callee, args⟩], [], reply callee args⟩
  constant := constant
  handle := handle

abbrev Assignment (α : Type) := String → α

namespace Assignment

variable {α : Type}

def set (vars : Assignment α) (name : String) (a : α) : Assignment α :=
  fun n => if n = name then a else vars n

def setAll (vars : Assignment α) : List Parameter → List α → Assignment α
  | p :: ps, a :: as => (vars.set p.name a).setAll ps as
  | _, _ => vars

@[simp] theorem set_same (vars : Assignment α) (name : String) (a : α) :
    vars.set name a name = a := by
  simp [set]

theorem set_other (vars : Assignment α) {name n : String} (a : α) (h : n ≠ name) :
    vars.set name a n = vars n := by
  simp [set, h]

end Assignment

/-! ### Execution -/

variable {τ α : Type}

/-- A call that does not propagate has no way to report a failure. -/
def Call.execute (m : Meaning τ α) (c : Call) (vars : Assignment α) : Run τ α :=
  let r := m.call c.callee (c.args.map vars)
  if c.propagates then r else r.unfailing

def Statement.execute (m : Meaning τ α) (s : Statement) (vars : Assignment α) :
    Run τ (Assignment α) :=
  match s with
  | .run c => (c.execute m vars).map fun _ => vars
  | .bind name c => (c.execute m vars).map (vars.set name)

/-- Executes statements in order, up to the first that does not succeed. -/
def executeAll (m : Meaning τ α) : List Statement → Assignment α → Run τ (Assignment α)
  | [], vars => .ofOutcome (.done vars)
  | s :: ss, vars => (s.execute m vars).andThen (executeAll m ss)

def Scope.execute (m : Meaning τ α) (s : Scope) (vars : Assignment α) : Run τ α :=
  ((executeAll m s.statements vars).map (· s.value)).contained
    (m.handle (vars s.env)) (m.constant s.default)

/-- Executes a bridge on values for its parameters; other names stand for whatever they
    stood for before. -/
def Bridge.execute (m : Meaning τ α) (b : Bridge) (outer : Assignment α) (args : List α) :
    Run τ α :=
  (executeAll m b.prologue (outer.setAll b.params args)).andThen (b.scope.execute m)

/-! ### Laws -/

theorem executeAll_append (m : Meaning τ α) (ss ts : List Statement) (vars : Assignment α) :
    executeAll m (ss ++ ts) vars = (executeAll m ss vars).andThen (executeAll m ts) := by
  induction ss generalizing vars with
  | nil => simp [executeAll]
  | cons s ss ih =>
    have h : executeAll m (ss ++ ts) = fun v => (executeAll m ss v).andThen (executeAll m ts) :=
      funext ih
    simp [executeAll, h, Run.andThen_assoc]

/-- Once the prologue is done, a bridge returns a value whatever its scope meets. -/
theorem Bridge.execute_outcome (m : Meaning τ α) (b : Bridge) (outer vars : Assignment α)
    (args : List α)
    (h : (executeAll m b.prologue (outer.setAll b.params args)).outcome = .done vars) :
    (b.execute m outer args).outcome =
      .done (((executeAll m b.scope.statements vars).map (· b.scope.value)).settled
        (m.constant b.scope.default)) := by
  simp [Bridge.execute, Run.andThen, h, Scope.execute, Run.contained_done]

end NativeBridge
