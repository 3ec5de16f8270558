/-
  NativeBridge/Catalog/Decoding.lean
  ==================================
  **From documents to catalogs.**  A record may be written in two ways.  As a table,
  its keys come in any order and unknown ones are passed over; each field is read at
  most once, under either of its spellings, and a field that is missing at the end
  takes its default.  As a list, the fields come in their order, those with defaults
  may be missing at the end, and whatever is left over is passed over.

  Reading stops at the first fault.  Values are read in the order of the document, so
  a missing field is only noticed when all the others are right.
-/
import NativeBridge.Catalog.Basic
import NativeBridge.Toml.Document

namespace NativeBridge

open Toml (Value)

namespace Decoding

/-! ### Plain values -/

abbrev Reader (α : Type) := Value → Except SchemaFault α

def wrongKind {α : Type} (v : Value) (expected : Expected) : Except SchemaFault α :=
  .error (.wrongKind v.found expected)

def text : Reader String
  | .text s => .ok s
  | v => wrongKind v .text

def truth : Reader Bool
  | .truth b => .ok b
  | v => wrongKind v .truth

def optional {α : Type} (read : Reader α) : Reader (Option α) := fun v => (read v).map some

def items {α : Type} (read : Reader α) : List Value → Except SchemaFault (List α)
  | [] => .ok []
  | v :: vs =>
    match read v with
    | .error e => .error e
    | .ok a => (items read vs).map (a :: ·)

def list {α : Type} (read : Reader α) : Reader (List α)
  | .list vs => items read vs
  | v => wrongKind v .list

/-! ### Fields of a table -/

/-- Reads a field into its slot, which must be free. -/
def fill {α : Type} (field : String) (read : Reader α) (slot : Option α) (v : Value) :
    Except SchemaFault (Option α) :=
  match slot with
  | some _ => .error (.duplicateField field)
  | none => (read v).map some

def required {α : Type} (field : String) (slot : Option α) : Except SchemaFault α :=
  match slot with
  | some a => .ok a
  | none => .error (.missingField field)

/-- A field of a record that is being read: the keys that spell it, how its values are
    read, and where the value is kept. -/
structure Slot (δ : Type) where
  Content : Type
  field : String
  keys : List String
  read : Reader Content
  get : δ → Option Content
  put : δ → Option Content → δ
  get_put : ∀ d x, get (put d x) = x

/-- Reads a value into the slot of its key; the value of an unknown key is passed over. -/
def absorb {δ : Type} : List (Slot δ) → δ → String → Value → Except SchemaFault δ
  | [], d, _, _ => .ok d
  | s :: slots, d, key, v =>
    if key ∈ s.keys then (fill s.field s.read (s.get d) v).map (s.put d)
    else absorb slots d key v

def absorbAll {δ : Type} (slots : List (Slot δ)) : δ → Toml.Table → Except SchemaFault δ
  | d, [] => .ok d
  | d, (key, v) :: rest =>
    match absorb slots d key v with
    | .error e => .error e
    | .ok d' => absorbAll slots d' rest

/-! ### Fields of a list -/

/-- The next item, which must be there; it is field number `i` of the record. -/
def nextRequired {α : Type} (record : Record) (i : Nat) (read : Reader α) :
    List Value → Except SchemaFault (α × List Value)
  | [] => .error (.tooShort i record)
  | v :: vs => (read v).map fun a => (a, vs)

/-- The next item, or a default if the list is at its end. -/
def nextOr {α : Type} (default : α) (read : Reader α) :
    List Value → Except SchemaFault (α × List Value)
  | [] => .ok (default, [])
  | v :: vs => (read v).map fun a => (a, vs)

/-- Reads a record in either of its two forms; a date or a time counts as a table
    without fields. -/
def record {α : Type} (r : Record) (ofTable : Toml.Table → Except SchemaFault α)
    (ofList : List Value → Except SchemaFault α) : Reader α
  | .table entries => ofTable entries
  | .moment => ofTable []
  | .list vs => ofList vs
  | v => wrongKind v (.record r)

/-! ### Signatures -/

structure SignatureFields where
  name : Option String
  params : Option (List String)
  returns : Option String

def SignatureFields.slots : List (Slot SignatureFields) :=
  [⟨String, "name", ["name"], text, (·.name),
    fun d x => { d with name := x }, fun _ _ => rfl⟩,
   ⟨List String, "params", ["params"], list text, (·.params),
    fun d x => { d with params := x }, fun _ _ => rfl⟩,
   ⟨String, "returns", ["returns"], text, (·.returns),
    fun d x => { d with returns := x }, fun _ _ => rfl⟩]

def signatureOfTable (entries : Toml.Table) : Except SchemaFault Signature := do
  let d ← absorbAll SignatureFields.slots ⟨none, none, none⟩ entries
  let name ← required "name" d.name
  .ok ⟨name, d.params.getD [], d.returns.getD unitType⟩

def signatureOfList (vs : List Value) : Except SchemaFault Signature := do
  let (name, vs) ← nextRequired .signature 0 text vs
  let (params, vs) ← nextOr [] (list text) vs
  let (returns, _) ← nextOr unitType text vs
  .ok ⟨name, params, returns⟩

def signature : Reader Signature := record .signature signatureOfTable signatureOfList

/-! ### Types -/

structure TypeFields where
  name : Option String
  native : Option String
  fromNative : Option (Option String)
  toNative : Option (Option String)
  default : Option String

def TypeFields.slots : List (Slot TypeFields) :=
  [⟨String, "name", ["name"], text, (·.name),
    fun d x => { d with name := x }, fun _ _ => rfl⟩,
   ⟨String, "native", ["native"], text, (·.native),
    fun d x => { d with native := x }, fun _ _ => rfl⟩,
   ⟨Option String, "from-native", ["from-native", "from_native"], optional text, (·.fromNative),
    fun d x => { d with fromNative := x }, fun _ _ => rfl⟩,
   ⟨Option String, "to-native", ["to-native", "to_native"], optional text, (·.toNative),
    fun d x => { d with toNative := x }, fun _ _ => rfl⟩,
   ⟨String, "default", ["default"], text, (·.default),
    fun d x => { d with default := x }, fun _ _ => rfl⟩]

def typeOfTable (entries : Toml.Table) : Except SchemaFault TypeDescriptor := do
  let d ← absorbAll TypeFields.slots ⟨none, none, none, none, none⟩ entries
  let name ← required "name" d.name
  let native ← required "native" d.native
  let default ← required "default" d.default
  .ok ⟨name, native, default, d.fromNative.getD none, d.toNative.getD none⟩

def typeOfList (vs : List Value) : Except SchemaFault TypeDescriptor := do
  let (name, vs) ← nextRequired .type 0 text vs
  let (native, vs) ← nextRequired .type 1 text vs
  let (fromNative, vs) ← nextOr none (optional text) vs
  let (toNative, vs) ← nextOr none (optional text) vs
  let (default, _) ← nextRequired .type 4 text vs
  .ok ⟨name, native, default, fromNative, toNative⟩

def type : Reader TypeDescriptor := record .type typeOfTable typeOfList

/-! ### Functions -/

structure FunctionFields where
  symbol : Option String
  native : Option Signature
  actual : Option Signature
  fallible : Option Bool
  excluded : Option Bool

def FunctionFields.slots : List (Slot FunctionFields) :=
  [⟨String, "jni-signature", ["jni-signature", "jni_signature"], text, (·.symbol),
    fun d x => { d with symbol := x }, fun _ _ => rfl⟩,
   ⟨Signature, "native", ["native"], signature, (·.native),
    fun d x => { d with native := x }, fun _ _ => rfl⟩,
   ⟨Signature, "actual", ["actual"], signature, (·.actual),
    fun d x => { d with actual := x }, fun _ _ => rfl⟩,
   ⟨Bool, "fallible", ["fallible"], truth, (·.fallible),
    fun d x => { d with fallible := x }, fun _ _ => rfl⟩,
   ⟨Bool, "excluded", ["excluded"], truth, (·.excluded),
    fun d x => { d with excluded := x }, fun _ _ => rfl⟩]

def functionOfTable (entries : Toml.Table) : Except SchemaFault FunctionDeclaration := do
  let d ← absorbAll FunctionFields.slots ⟨none, none, none, none, none⟩ entries
  let symbol ← required "jni-signature" d.symbol
  let native ← required "native" d.native
  let actual ← required "actual" d.actual
  .ok ⟨symbol, native, actual, d.fallible.getD true, d.excluded.getD false⟩

def functionOfList (vs : List Value) : Except SchemaFault FunctionDeclaration := do
  let (symbol, vs) ← nextRequired .function 0 text vs
  let (native, vs) ← nextRequired .function 1 signature vs
  let (actual, vs) ← nextRequired .function 2 signature vs
  let (fallible, vs) ← nextOr true truth vs
  let (excluded, _) ← nextOr false truth vs
  .ok ⟨symbol, native, actual, fallible, excluded⟩

def function : Reader FunctionDeclaration := record .function functionOfTable functionOfList

/-! ### Output -/

structure OutputFields where
  path : Option (Option String)
  implementation : Option String
  imports : Option (List String)
  runtime : Option String

def OutputFields.slots : List (Slot OutputFields) :=
  [⟨Option String, "path", ["path"], optional text, (·.path),
    fun d x => { d with path := x }, fun _ _ => rfl⟩,
   ⟨String, "implementation", ["implementation"], text, (·.implementation),
    fun d x => { d with implementation := x }, fun _ _ => rfl⟩,
   ⟨List String, "imports", ["imports"], list text, (·.imports),
    fun d x => { d with imports := x }, fun _ _ => rfl⟩,
   ⟨String, "runtime-crate", ["runtime-crate", "runtime_crate"], text, (·.runtime),
    fun d x => { d with runtime := x }, fun _ _ => rfl⟩]

def outputOfTable (entries : Toml.Table) : Except SchemaFault OutputSettings := do
  let d ← absorbAll OutputFields.slots ⟨none, none, none, none⟩ entries
  .ok ⟨d.path.getD none, d.implementation.getD "", d.imports.getD [],
    d.runtime.getD standardRuntime⟩

def outputOfList (vs : List Value) : Except SchemaFault OutputSettings := do
  let (path, vs) ← nextOr none (optional text) vs
  let (implementation, vs) ← nextOr "" text vs
  let (imports, vs) ← nextOr [] (list text) vs
  let (runtime, _) ← nextOr standardRuntime text vs
  .ok ⟨path, implementation, imports, runtime⟩

def output : Reader OutputSettings := record .output outputOfTable outputOfList

/-! ### Catalogs -/

/-- The parts of a catalog read so far. -/
structure CatalogFields where
  output : Option OutputSettings
  types : Option (List TypeDescriptor)
  functions : Option (List FunctionDeclaration)

def CatalogFields.slots : List (Slot CatalogFields) :=
  [⟨OutputSettings, "output", ["output"], Decoding.output, (·.output),
    fun d x => { d with output := x }, fun _ _ => rfl⟩,
   ⟨List TypeDescriptor, "types", ["types"], list type, (·.types),
    fun d x => { d with types := x }, fun _ _ => rfl⟩,
   ⟨List FunctionDeclaration, "functions", ["functions"], list function, (·.functions),
    fun d x => { d with functions := x }, fun _ _ => rfl⟩]

end Decoding

def Catalog.ofTable (entries : Toml.Table) : Except SchemaFault Catalog := do
  let d ← Decoding.absorbAll Decoding.CatalogFields.slots ⟨none, none, none⟩ entries
  .ok ⟨d.output.getD .standard, d.types.getD [], d.functions.getD []⟩

/-- The catalog that a text describes, if it is one and no function of it lacks its
    symbol or its name. -/
def Catalog.parse (text : String) : Except BridgeError Catalog :=
  match Toml.parse text with
  | none => .error (.document .malformed)
  | some entries =>
    match Catalog.ofTable entries with
    | .error fault => .error (.document (.schema fault))
    | .ok c => c.checked

end NativeBridge
