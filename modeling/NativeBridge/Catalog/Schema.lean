/-
  NativeBridge/Catalog/Schema.lean
  ================================
  **The shape of a catalog.**  The records a catalog is made of, and the faults of a
  document that does not have that shape.
-/
namespace NativeBridge

inductive Record
  | output
  | type
  | function
  | signature
  deriving DecidableEq, Repr

/-- The name of a record in messages. -/
def Record.name : Record → String
  | output => "struct OutputConfig"
  | type => "struct TypeDecl"
  | function => "struct FunctionDecl"
  | signature => "struct SignatureDecl"

def Record.size : Record → Nat
  | output => 4
  | type => 5
  | function => 5
  | signature => 3

inductive Expected
  | text
  | truth
  | list
  | record (r : Record)
  deriving DecidableEq, Repr

def Expected.name : Expected → String
  | text => "a string"
  | truth => "a boolean"
  | list => "a sequence"
  | record r => r.name

/-- Why a document is not a catalog. -/
inductive SchemaFault
  /-- One field under both of its spellings. -/
  | duplicateField (field : String)
  | missingField (field : String)
  /-- A value of the wrong kind; `found` describes it. -/
  | wrongKind (found : String) (expected : Expected)
  /-- A record written as a list that ends before a field without a default. -/
  | tooShort (length : Nat) (record : Record)
  deriving DecidableEq, Repr

def SchemaFault.message : SchemaFault → String
  | duplicateField field => s!"duplicate field `{field}`"
  | missingField field => s!"missing field `{field}`"
  | wrongKind found expected => s!"invalid type: {found}, expected {expected.name}"
  | tooShort length record =>
    s!"invalid length {length}, expected {record.name} with {record.size} elements"

/-- Why a text is not a catalog: it is no TOML at all, or its shape is wrong. -/
inductive DocumentFault
  | malformed
  | schema (fault : SchemaFault)
  deriving DecidableEq, Repr

def DocumentFault.message : DocumentFault → String
  | malformed => "not a TOML document"
  | schema fault => fault.message

end NativeBridge
