/-
  NativeBridge/Bridge/Generation.lean
  ===================================
  **From function pairs to bridges.**  The native side of every position must name a
  primitive, the actual type must be represented by it, and a value must be able to
  go through in the direction it travels: converted by a rule, or unchanged when the
  type represents itself.  Positions are checked from left to right, the result last,
  and nothing is built before all of them hold; then the bridge is drafted step by step.

  A batch is generated in order.  It fails at its first fault; what was built before
  is in the log, since an event is logged when a bridge is built and not when the
  batch is done.
-/
import NativeBridge.Bridge.Draft
import NativeBridge.Bridge.Identifier
import NativeBridge.Event
import NativeBridge.Types.Registry
import NativeBridge.FunctionPair

namespace NativeBridge

/-! ### Fixed names -/

/-- The first parameter of every bridge: the environment of the call. -/
def envParameter : Parameter := ⟨"env", "EnvHandle"⟩

/-- The second parameter: the class that the bridge is called on. -/
def callerParameter : Parameter := ⟨"clazz", "ClassHandle"⟩

/-- The name that the result of the implementation is bound to. -/
def resultName : String := "callResult"

/-- The call that attaches the thread. -/
def attachPath : String := "init_platform"

def paramName (i : Nat) : String := s!"p{i}"

/-- The path of an implementation: below the given one, or a bare name. -/
def calleePath (implementation name : String) : String :=
  if implementation = "" then name else implementation ++ "::" ++ name

/-! ### Checks -/

/-- The descriptor of the actual type at a position, if the native type fits it. -/
def descriptorAt (r : TypeRegistry) (symbol : String) (position : Position)
    (native actual : String) : Except BridgeError TypeDescriptor := do
  let primitive ← r.lookup native (some (position, symbol))
  if primitive.isPrimitive then
    let d ← r.lookup actual (some (position, symbol))
    if d.native = native then .ok d
    else .error (.signatureMismatch symbol (.representation position actual d.native native))
  else .error (.signatureMismatch symbol (.notNative position native))

/-- The descriptor of an argument, which must have a way in. -/
def argumentDescriptor (r : TypeRegistry) (symbol : String) (i : Nat) (native actual : String) :
    Except BridgeError TypeDescriptor := do
  let d ← descriptorAt r symbol (.parameter i) native actual
  if d.convertsArguments || d.representsItself then .ok d
  else .error (.signatureMismatch symbol (.noFromNative i actual))

def resultDescriptor (r : TypeRegistry) (symbol native actual : String) :
    Except BridgeError TypeDescriptor := do
  let d ← descriptorAt r symbol .result native actual
  if d.convertsResults || d.representsItself then .ok d
  else .error (.signatureMismatch symbol (.noToNative actual))

def argumentDescriptors (r : TypeRegistry) (symbol : String) :
    (i : Nat) → List (String × String) → Except BridgeError (List TypeDescriptor)
  | _, [] => .ok []
  | i, (native, actual) :: rest => do
    let d ← argumentDescriptor r symbol i native actual
    let ds ← argumentDescriptors r symbol (i + 1) rest
    .ok (d :: ds)

/-! ### Construction -/

def bridgeParams (native : Signature) : List Parameter :=
  envParameter :: callerParameter ::
    native.params.zipIdx.map fun (type, i) => ⟨paramName i, type⟩

/-- Binds the converted arguments, from index `i` on. -/
def argumentStatements : (i : Nat) → List TypeDescriptor → List Statement
  | _, [] => []
  | i, d :: ds =>
    match d.fromNative with
    | some rule =>
      .bind (convertedName (paramName i)) (.rule rule envParameter.name (paramName i)) ::
        argumentStatements (i + 1) ds
    | none => argumentStatements (i + 1) ds

def argumentNames : (i : Nat) → List TypeDescriptor → List String
  | _, [] => []
  | i, d :: ds =>
    (if d.convertsArguments then convertedName (paramName i) else paramName i) ::
      argumentNames (i + 1) ds

def resultStatements (d : TypeDescriptor) : List Statement :=
  match d.toNative with
  | some rule => [.bind (convertedName resultName) (.rule rule envParameter.name resultName)]
  | none => []

def resultValue (d : TypeDescriptor) : String :=
  if d.convertsResults then convertedName resultName else resultName

/-- What happens in the scope: arguments in, the implementation, the result out. -/
def scopeStatements (implementation : String) (pair : FunctionPair)
    (arguments : List TypeDescriptor) (result : TypeDescriptor) : List Statement :=
  argumentStatements 0 arguments ++
    .bind resultName ⟨calleePath implementation pair.actual.name, argumentNames 0 arguments,
      pair.fallible⟩ ::
    resultStatements result

def buildBridge (ident implementation : String) (pair : FunctionPair)
    (arguments : List TypeDescriptor) (result : TypeDescriptor) : Except BridgeError Bridge := do
  let head ← (Draft.start ident pair.symbol).withParameters (bridgeParams pair.native)
  let attaching := (head.withResult pair.native.returns).withStatement (.run ⟨attachPath, [], false⟩)
  let opened ← attaching.withScope envParameter.name result.default
  let filled := opened.withStatements (scopeStatements implementation pair arguments result)
  let closed ← filled.withValue (resultValue result)
  closed.finish

def bridgeOf (r : TypeRegistry) (implementation : String) (pair : FunctionPair) :
    Except BridgeError Bridge := do
  pair.matchArity
  let ident ← identifierFor pair.symbol
  let arguments ← argumentDescriptors r pair.symbol 0 pair.positions
  let result ← resultDescriptor r pair.symbol pair.native.returns pair.actual.returns
  buildBridge ident implementation pair arguments result

/-! ### Batches -/

def FunctionPair.generatedEvent (pair : FunctionPair) : Event :=
  .generated pair.symbol pair.actual.name pair.native.arity

/-- A value or an error, with what was logged on the way. -/
structure Logged (α : Type) where
  log : List Event
  result : Except BridgeError α

namespace Logged

def pure {α : Type} (a : α) : Logged α := ⟨[], .ok a⟩

def fail {α : Type} (e : BridgeError) : Logged α := ⟨[], .error e⟩

def ofExcept {α : Type} (x : Except BridgeError α) : Logged α := ⟨[], x⟩

def map {α β : Type} (f : α → β) (x : Logged α) : Logged β := ⟨x.log, x.result.map f⟩

/-- Goes on with the value, if there is one; the log of the first part stays. -/
def andThen {α β : Type} (x : Logged α) (f : α → Logged β) : Logged β :=
  match x.result with
  | .ok a => ⟨x.log ++ (f a).log, (f a).result⟩
  | .error e => ⟨x.log, .error e⟩

end Logged

/-- The bridge of a pair; its event is logged if it could be built. -/
def loggedBridge (r : TypeRegistry) (implementation : String) (pair : FunctionPair) :
    Logged Bridge :=
  match bridgeOf r implementation pair with
  | .ok b => ⟨[pair.generatedEvent], .ok b⟩
  | .error e => .fail e

/-- The rest of a batch, given the symbols and identifiers that are taken. -/
def bridgesAfter (r : TypeRegistry) (implementation : String) :
    (symbols idents : List String) → List FunctionPair → Logged (List Bridge)
  | _, _, [] => .pure []
  | symbols, idents, pair :: rest =>
    if symbols.contains pair.symbol then .fail (.duplicateSymbol pair.symbol)
    else
      (loggedBridge r implementation pair).andThen fun b =>
        if idents.contains b.ident then .fail (.malformedBridge b.ident (.collision pair.symbol))
        else
          (bridgesAfter r implementation (pair.symbol :: symbols) (b.ident :: idents) rest).map
            (b :: ·)

def bridgesOf (r : TypeRegistry) (implementation : String) (pairs : List FunctionPair) :
    Logged (List Bridge) :=
  bridgesAfter r implementation [] [] pairs

end NativeBridge
