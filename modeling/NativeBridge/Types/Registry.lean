/-
  NativeBridge/Types/Registry.lean
  ================================
  **The registry of types.**  Descriptors are kept under keys, in the order of the
  bytes of the keys, and a key is given once.  Registration puts a descriptor under
  its own name; it refuses what is flawed or already there and never changes an entry.
-/
import NativeBridge.Types.Descriptor
import NativeBridge.Text.Utf8

namespace NativeBridge

structure TypeRegistry where
  /-- What is stored under which key. -/
  slots : List (String × TypeDescriptor)
  deriving DecidableEq, Repr

namespace TypeRegistry

def empty : TypeRegistry := ⟨[]⟩

/-- The order of names: byte by byte. -/
def precedes (a b : String) : Bool := decide (Text.bytes a < Text.bytes b)

/-- Stores a descriptor under a key, in the place of what was there or else in front of
    the first key that does not precede its own. -/
def insert (key : String) (d : TypeDescriptor) :
    List (String × TypeDescriptor) → List (String × TypeDescriptor)
  | [] => [(key, d)]
  | (k, e) :: rest =>
    if k = key then (key, d) :: rest
    else if precedes k key then (k, e) :: insert key d rest
    else (key, d) :: (k, e) :: rest

def find? (r : TypeRegistry) (name : String) : Option TypeDescriptor := r.slots.lookup name

def contains (r : TypeRegistry) (name : String) : Bool := (r.find? name).isSome

def entries (r : TypeRegistry) : List TypeDescriptor := r.slots.map (·.2)

def size (r : TypeRegistry) : Nat := r.slots.length

def isEmpty (r : TypeRegistry) : Bool := r.slots.isEmpty

def names (r : TypeRegistry) : List String := r.entries.map (·.name)

/-- Adds a descriptor; a flaw is reported before a name that is taken. -/
def register (r : TypeRegistry) (d : TypeDescriptor) : Except BridgeError TypeRegistry :=
  match d.flaw with
  | some flaw => .error (.invalidDescriptor d.name flaw)
  | none =>
    if r.contains d.name then .error (.duplicateType d.name)
    else .ok ⟨insert d.name d r.slots⟩

/-- Adds descriptors in their order, up to the first that is refused. -/
def registerAll (r : TypeRegistry) : List TypeDescriptor → Except BridgeError TypeRegistry
  | [] => .ok r
  | d :: ds =>
    match r.register d with
    | .ok r' => r'.registerAll ds
    | .error e => .error e

/-- The registry after a registration, which is the same registry if it is refused. -/
def after (r : TypeRegistry) (d : TypeDescriptor) : TypeRegistry :=
  match r.register d with
  | .ok r' => r'
  | .error _ => r

/-- The registry after registrations of which any may be refused. -/
def afterAll (r : TypeRegistry) (ds : List TypeDescriptor) : TypeRegistry := ds.foldl after r

/-- The descriptor of a name; `place` says in messages where the name was met. -/
def lookup (r : TypeRegistry) (name : String) (place : Option (Position × String)) :
    Except BridgeError TypeDescriptor :=
  match r.find? name with
  | some d => .ok d
  | none => .error (.unknownType name place)

def convertsArguments (r : TypeRegistry) (name : String) : Except BridgeError Bool :=
  (r.lookup name none).map (·.convertsArguments)

def convertsResults (r : TypeRegistry) (name : String) : Except BridgeError Bool :=
  (r.lookup name none).map (·.convertsResults)

end TypeRegistry

end NativeBridge
