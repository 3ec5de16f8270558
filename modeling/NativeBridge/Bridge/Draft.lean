/-
  NativeBridge/Bridge/Draft.lean
  ==============================
  **Bridges under construction.**  A draft takes parameters, statements and one
  containment scope in any order.  It is changed in place: an operation that makes no
  sense is refused, and whatever it has done to the draft by then stays done.
  Statements go into the scope while it is open and into the prologue otherwise, also
  after the scope was closed.
-/
import NativeBridge.Bridge.Basic
import NativeBridge.Fault

namespace NativeBridge

/-- A scope that has no value yet. -/
structure Opening where
  env : String
  default : String
  statements : List Statement
  deriving DecidableEq, Repr

structure Draft where
  ident : String
  exportName : String
  params : List Parameter
  /-- The names that are taken by parameters. -/
  names : List String
  returns : String
  prologue : List Statement
  /-- The scope that is being filled, if one is open. -/
  opened : Option Opening
  /-- The scope that is complete. -/
  closed : Option Scope
  deriving DecidableEq, Repr

namespace Draft

/-- A draft without parameters that returns nothing. -/
def start (ident exportName : String) : Draft :=
  ⟨ident, exportName, [], [], unitType, [], none, none⟩

def flawed (d : Draft) (flaw : BridgeFlaw) : BridgeError := .malformedBridge d.ident flaw

/-! ### Operations -/

/-- What an operation comes to: its answer, and the draft that it leaves behind. -/
structure Edited where
  answer : Except BridgeError Unit
  draft : Draft

/-- Takes a name, and adds the parameter if the name was free. -/
def addParameter (d : Draft) (name type : String) : Edited :=
  let taken := { d with names := d.names.insert name }
  if name ∈ d.names then ⟨.error (taken.flawed (.duplicateParameter name)), taken⟩
  else ⟨.ok (), { taken with params := d.params ++ [⟨name, type⟩] }⟩

def withResult (d : Draft) (type : String) : Draft := { d with returns := type }

/-- Adds a statement to the scope, if it is open, and to the prologue otherwise. -/
def withStatement (d : Draft) (s : Statement) : Draft :=
  match d.opened with
  | some scope => { d with opened := some { scope with statements := scope.statements ++ [s] } }
  | none => { d with prologue := d.prologue ++ [s] }

def openScope (d : Draft) (env default : String) : Edited :=
  if d.opened.isSome || d.closed.isSome then ⟨.error (d.flawed .openedTwice), d⟩
  else ⟨.ok (), { d with opened := some ⟨env, default, []⟩ }⟩

/-- Takes the open scope out of the draft, and keeps it with its value if there was one. -/
def closeScope (d : Draft) (value : String) : Edited :=
  let left := { d with opened := none }
  match d.opened with
  | some scope =>
    ⟨.ok (), { left with
      closed := some ⟨scope.env, scope.default, scope.statements, value⟩ }⟩
  | none => ⟨.error (left.flawed .notOpen), left⟩

def finish (d : Draft) : Except BridgeError Bridge :=
  if d.opened.isSome then .error (d.flawed .neverClosed)
  else
    match d.closed with
    | some scope => .ok ⟨d.ident, d.exportName, d.params, d.returns, d.prologue, scope⟩
    | none => .error (d.flawed .noScope)

/-! ### Operations up to the first refusal -/

/-- The draft, for those who go no further with a refused one. -/
def Edited.accepted (x : Edited) : Except BridgeError Draft := x.answer.map fun _ => x.draft

def withParameter (d : Draft) (name type : String) : Except BridgeError Draft :=
  (d.addParameter name type).accepted

def withScope (d : Draft) (env default : String) : Except BridgeError Draft :=
  (d.openScope env default).accepted

def withValue (d : Draft) (value : String) : Except BridgeError Draft :=
  (d.closeScope value).accepted

/-- Adds parameters in their order, up to the first that is refused. -/
def withParameters (d : Draft) : List Parameter → Except BridgeError Draft
  | [] => .ok d
  | p :: ps => do
    let d' ← d.withParameter p.name p.type
    d'.withParameters ps

def withStatements (d : Draft) (ss : List Statement) : Draft := ss.foldl withStatement d

/-! ### Steps -/

inductive Edit
  | parameter (name type : String)
  | returns (type : String)
  | statement (s : Statement)
  | opening (env default : String)
  | closing (value : String)
  deriving DecidableEq, Repr

def edit (d : Draft) : Edit → Edited
  | .parameter name type => d.addParameter name type
  | .returns type => ⟨.ok (), d.withResult type⟩
  | .statement s => ⟨.ok (), d.withStatement s⟩
  | .opening env default => d.openScope env default
  | .closing value => d.closeScope value

def apply (d : Draft) (e : Edit) : Except BridgeError Unit := (d.edit e).answer

/-- The draft after an edit, whether it was refused or not. -/
def after (d : Draft) (e : Edit) : Draft := (d.edit e).draft

end Draft

end NativeBridge
