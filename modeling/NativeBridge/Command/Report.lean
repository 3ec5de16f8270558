/-
  NativeBridge/Command/Report.lean
  ================================
  **What a check reports.**  One summary for every bridge of the unit, and the numbers
  of types and of excluded functions.  The conversions of a bridge are counted by the
  names they are bound to.
-/
import NativeBridge.Text.Json
import NativeBridge.Unit

namespace NativeBridge.Command

open NativeBridge.Text (Json)

structure Summary where
  symbol : String
  params : List String
  returns : String
  conversions : Nat
  deriving DecidableEq, Repr

def isConversion : Statement → Bool
  | .bind name _ => isConvertedName name
  | .run _ => false

def Summary.ofBridge (b : Bridge) : Summary :=
  ⟨b.exportName, b.params.map fun p => p.name ++ ": " ++ p.type, b.returns,
    b.scope.statements.countP isConversion⟩

structure Report where
  catalog : String
  types : Nat
  excluded : Nat
  bridges : List Summary
  deriving DecidableEq, Repr

def Report.ofUnit (path : String) (c : Catalog) (r : TypeRegistry) (u : BridgeUnit) : Report :=
  ⟨path, r.size, c.functions.length - c.active.length, u.bridges.map Summary.ofBridge⟩

/-! ### As text -/

def Summary.line (s : Summary) : String :=
  "  " ++ s.symbol ++ " (" ++ ", ".intercalate s.params ++ ") -> " ++ s.returns ++
    s!" [{s.conversions} conversion(s)]\n"

def Report.text (r : Report) : String :=
  "Catalog " ++ r.catalog ++ ": OK\n" ++
  s!"  Types:    {r.types}\n" ++
  s!"  Bridges:  {r.bridges.length}\n" ++
  s!"  Excluded: {r.excluded}\n" ++
  String.join (r.bridges.map Summary.line)

/-! ### As JSON -/

def Summary.json (s : Summary) : Json :=
  .object [("symbol", .text s.symbol), ("params", .list (s.params.map .text)),
    ("returns", .text s.returns), ("conversions", .number s.conversions)]

def Report.json (r : Report) : Json :=
  .object [("catalog", .text r.catalog), ("types", .number r.types),
    ("excluded", .number r.excluded), ("bridges", .list (r.bridges.map Summary.json))]

/-- A report as it is printed. -/
def Report.shown (r : Report) (json : Bool) : String :=
  if json then r.json.layout 0 ++ "\n" else r.text

end NativeBridge.Command
