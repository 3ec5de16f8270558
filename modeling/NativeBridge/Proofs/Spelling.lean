/-
  NativeBridge/Proofs/Spelling.lean
  =================================
  **The spellings of a catalog.**  A document may give the fields of a record under
  either of their keys and in any order, leave out what has its default, hold keys that
  nobody reads, or list the fields by position.  `TableOf` and `ListOf` say which tables
  and lists spell a record, from its fields alone; `Catalog.Spelled` says it of documents.

  `spelled_catalogTable` says that there is a spelling of every catalog: the one in which
  all fields are written out under their first keys.
-/
import Mathlib.Data.List.Forall2
import Mathlib.Tactic.Simps.Basic
import NativeBridge.Catalog.Basic
import NativeBridge.Toml.Value

namespace NativeBridge

open Toml (Value)

/-! ### Spellings -/

namespace Spelling

/-- A field of a record, as a document may have it. -/
structure Field where
  /-- The keys that it goes by. -/
  keys : List String
  /-- The values that give it its content. -/
  Written : Value → Prop
  /-- Whether it may be left out. -/
  Optional : Prop

namespace Field

@[simps]
def required (keys : List String) (Written : Value → Prop) : Field := ⟨keys, Written, False⟩

/-- A field that may be left out if its content is the default. -/
@[simps]
def defaulted {α : Type} (keys : List String) (default content : α)
    (Written : Value → Prop) : Field :=
  ⟨keys, Written, content = default⟩

/-- What a table has under the keys of a field: nothing, or one value under one key. -/
inductive Entries (f : Field) : Toml.Table → Prop
  | leftOut (h : f.Optional) : Entries f []
  | written {key : String} {v : Value} (hkey : key ∈ f.keys) (hv : f.Written v) :
      Entries f [(key, v)]

end Field

/-- The entries of a table under some keys. -/
def entriesOf (keys : List String) (entries : Toml.Table) : Toml.Table :=
  entries.filter fun e => e.1 ∈ keys

/-- Tables that spell a record: every field has its entries, wherever they stand and
    whatever else there is. -/
def TableOf (fields : List Field) (entries : Toml.Table) : Prop :=
  ∀ f ∈ fields, f.Entries (entriesOf f.keys entries)

@[simp] theorem tableOf_nil (entries : Toml.Table) : TableOf [] entries := by
  simp [TableOf]

@[simp] theorem tableOf_cons_iff {f : Field} {fields : List Field} {entries : Toml.Table} :
    TableOf (f :: fields) entries ↔
      f.Entries (entriesOf f.keys entries) ∧ TableOf fields entries := by
  simp [TableOf]

/-- Lists that spell a record: its fields by position, up to where all that is left may
    be left out. -/
inductive ListOf : List Field → List Value → Prop
  | cut {fields : List Field} (h : ∀ f ∈ fields, f.Optional) : ListOf fields []
  | next {f : Field} {fields : List Field} {v : Value} {vs : List Value} (hv : f.Written v)
      (h : ListOf fields vs) : ListOf (f :: fields) (v :: vs)

inductive RecordOf (fields : List Field) : Value → Prop
  | table {entries : Toml.Table} (h : TableOf fields entries) : RecordOf fields (.table entries)
  | list {vs : List Value} (h : ListOf fields vs) : RecordOf fields (.list vs)

def IsText (s : String) (v : Value) : Prop := v = .text s

def IsTruth (b : Bool) (v : Value) : Prop := v = .truth b

/-- An optional text that is there; no value stands for one that is not. -/
def IsPresent (x : Option String) (v : Value) : Prop := ∃ s, x = some s ∧ IsText s v

def IsListOf {α : Type} (Item : α → Value → Prop) (xs : List α) (v : Value) : Prop :=
  ∃ vs, v = .list vs ∧ List.Forall₂ Item xs vs

/-! ### The records of a catalog -/

def signatureFields (s : Signature) : List Field :=
  [.required ["name"] (IsText s.name),
   .defaulted ["params"] [] s.params (IsListOf IsText s.params),
   .defaulted ["returns"] "()" s.returns (IsText s.returns)]

def typeFields (d : TypeDescriptor) : List Field :=
  [.required ["name"] (IsText d.name),
   .required ["native"] (IsText d.native),
   .defaulted ["from-native", "from_native"] none d.fromNative (IsPresent d.fromNative),
   .defaulted ["to-native", "to_native"] none d.toNative (IsPresent d.toNative),
   .required ["default"] (IsText d.default)]

def functionFields (f : FunctionDeclaration) : List Field :=
  [.required ["jni-signature", "jni_signature"] (IsText f.symbol),
   .required ["native"] (RecordOf (signatureFields f.native)),
   .required ["actual"] (RecordOf (signatureFields f.actual)),
   .defaulted ["fallible"] true f.fallible (IsTruth f.fallible),
   .defaulted ["excluded"] false f.excluded (IsTruth f.excluded)]

def outputFields (o : OutputSettings) : List Field :=
  [.defaulted ["path"] none o.path (IsPresent o.path),
   .defaulted ["implementation"] "" o.implementation (IsText o.implementation),
   .defaulted ["imports"] [] o.imports (IsListOf IsText o.imports),
   .defaulted ["runtime-crate", "runtime_crate"] "jnibridge_runtime" o.runtime
    (IsText o.runtime)]

def catalogFields (c : Catalog) : List Field :=
  [.defaulted ["output"] ⟨none, "", [], "jnibridge_runtime"⟩ c.output
    (RecordOf (outputFields c.output)),
   .defaulted ["types"] [] c.types (IsListOf (fun d => RecordOf (typeFields d)) c.types),
   .defaulted ["functions"] [] c.functions
    (IsListOf (fun f => RecordOf (functionFields f)) c.functions)]

end Spelling

/-- A document that spells the catalog. -/
def Catalog.Spelled (c : Catalog) (entries : Toml.Table) : Prop :=
  Spelling.TableOf (Spelling.catalogFields c) entries

/-! ### The plain spelling -/

namespace Spelling

def optionalEntry (key : String) (x : Option String) : Toml.Table :=
  x.toList.map fun s => (key, .text s)

def textsValue (ss : List String) : Value := .list (ss.map .text)

def signatureTable (s : Signature) : Toml.Table :=
  [("name", .text s.name), ("params", textsValue s.params), ("returns", .text s.returns)]

def typeTable (d : TypeDescriptor) : Toml.Table :=
  [("name", .text d.name), ("native", .text d.native)] ++
    optionalEntry "from-native" d.fromNative ++ optionalEntry "to-native" d.toNative ++
    [("default", .text d.default)]

def functionTable (f : FunctionDeclaration) : Toml.Table :=
  [("jni-signature", .text f.symbol), ("native", .table (signatureTable f.native)),
   ("actual", .table (signatureTable f.actual)), ("fallible", .truth f.fallible),
   ("excluded", .truth f.excluded)]

def outputTable (o : OutputSettings) : Toml.Table :=
  optionalEntry "path" o.path ++
    [("implementation", .text o.implementation), ("imports", textsValue o.imports),
     ("runtime-crate", .text o.runtime)]

/-- The document in which all fields are written out, if they can be. -/
def catalogTable (c : Catalog) : Toml.Table :=
  [("output", .table (outputTable c.output)),
   ("types", .list (c.types.map fun d => .table (typeTable d))),
   ("functions", .list (c.functions.map fun f => .table (functionTable f)))]

@[simp] theorem entriesOf_nil (keys : List String) : entriesOf keys [] = [] := rfl

@[simp] theorem entriesOf_cons (keys : List String) (e : String × Value)
    (entries : Toml.Table) :
    entriesOf keys (e :: entries) =
      if e.1 ∈ keys then e :: entriesOf keys entries else entriesOf keys entries := by
  simp [entriesOf, List.filter_cons]

@[simp] theorem entriesOf_append (keys : List String) (es es' : Toml.Table) :
    entriesOf keys (es ++ es') = entriesOf keys es ++ entriesOf keys es' :=
  List.filter_append es es'

@[simp] theorem entriesOf_optionalEntry (keys : List String) (key : String) (x : Option String) :
    entriesOf keys (optionalEntry key x) = if key ∈ keys then optionalEntry key x else [] := by
  cases x <;> simp [optionalEntry]

@[simp] theorem entries_nil_iff {f : Field} : f.Entries [] ↔ f.Optional := by
  constructor
  · intro h
    cases h with
    | leftOut h => exact h
  · exact .leftOut

@[simp] theorem entries_singleton_iff {f : Field} {key : String} {v : Value} :
    f.Entries [(key, v)] ↔ key ∈ f.keys ∧ f.Written v := by
  constructor
  · intro h
    cases h with
    | written hkey hv => exact ⟨hkey, hv⟩
  · rintro ⟨hkey, hv⟩
    exact .written hkey hv

@[simp] theorem entries_optionalEntry {keys : List String} {key : String} (hkey : key ∈ keys)
    (x : Option String) :
    (Field.defaulted keys none x (IsPresent x)).Entries (optionalEntry key x) := by
  cases x with
  | none => exact .leftOut rfl
  | some s => exact .written hkey ⟨s, rfl, rfl⟩

@[simp] theorem recordOf_table_iff {fields : List Field} {entries : Toml.Table} :
    RecordOf fields (.table entries) ↔ TableOf fields entries := by
  constructor
  · intro h
    cases h with
    | table h => exact h
  · exact .table

@[simp] theorem isText_text (s : String) : IsText s (.text s) := rfl

@[simp] theorem isTruth_truth (b : Bool) : IsTruth b (.truth b) := rfl

theorem isListOf_map {α : Type} {Item : α → Value → Prop} {f : α → Value}
    (h : ∀ x, Item x (f x)) (xs : List α) : IsListOf Item xs (.list (xs.map f)) :=
  ⟨xs.map f, rfl, List.forall₂_map_right_iff.2 (List.forall₂_same.2 fun x _ => h x)⟩

@[simp] theorem isListOf_texts (ss : List String) : IsListOf IsText ss (textsValue ss) :=
  isListOf_map isText_text ss

@[simp] theorem tableOf_signatureTable (s : Signature) :
    TableOf (signatureFields s) (signatureTable s) := by
  simp [signatureFields, signatureTable]

@[simp] theorem tableOf_typeTable (d : TypeDescriptor) :
    TableOf (typeFields d) (typeTable d) := by
  simp [typeFields, typeTable]

@[simp] theorem tableOf_functionTable (f : FunctionDeclaration) :
    TableOf (functionFields f) (functionTable f) := by
  simp [functionFields, functionTable]

@[simp] theorem tableOf_outputTable (o : OutputSettings) :
    TableOf (outputFields o) (outputTable o) := by
  simp [outputFields, outputTable]

/-- Every catalog can be spelled. -/
theorem spelled_catalogTable (c : Catalog) : c.Spelled (catalogTable c) := by
  simp [Catalog.Spelled, catalogFields, catalogTable, isListOf_map]

end Spelling

end NativeBridge
