/-
  NativeBridge/Catalog/Basic.lean
  ===============================
  **Catalogs.**  A catalog says where a unit goes, which types it adds to the standard
  ones, and which function pairs it bridges.  Excluded functions stay in the catalog
  and out of the unit.
-/
import NativeBridge.Bridge.Rendering
import NativeBridge.Types.Standard
import NativeBridge.FunctionPair

namespace NativeBridge

structure OutputSettings where
  /-- The destination, relative to the catalog. -/
  path : Option String
  /-- The path below which the implementations are found. -/
  implementation : String
  imports : List String
  runtime : String
  deriving DecidableEq, Repr

/-- What holds if the catalog says nothing about its output. -/
def OutputSettings.standard : OutputSettings := ⟨none, "", [], standardRuntime⟩

structure FunctionDeclaration where
  symbol : String
  native : Signature
  actual : Signature
  fallible : Bool
  excluded : Bool
  deriving DecidableEq, Repr

def FunctionDeclaration.pair (f : FunctionDeclaration) : FunctionPair :=
  ⟨f.symbol, f.native, f.actual, f.fallible⟩

structure Catalog where
  output : OutputSettings
  types : List TypeDescriptor
  functions : List FunctionDeclaration
  deriving DecidableEq, Repr

namespace Catalog

def empty : Catalog := ⟨.standard, [], []⟩

/-- The first flaw from function number `i` on; a blank symbol is met before a blank
    name. -/
def flawFrom : (i : Nat) → List FunctionDeclaration → Option CatalogFlaw
  | _, [] => none
  | i, f :: fs =>
    if Text.isBlank f.symbol then some (.blankSymbol i)
    else if Text.isBlank f.actual.name then some (.blankName i f.symbol)
    else flawFrom (i + 1) fs

/-- A catalog in which every function, excluded or not, has a symbol and a name. -/
def checked (c : Catalog) : Except BridgeError Catalog :=
  match flawFrom 0 c.functions with
  | some flaw => .error (.invalidCatalog flaw)
  | none => .ok c

def active (c : Catalog) : List FunctionDeclaration := c.functions.filter (!·.excluded)

def pairs (c : Catalog) : List FunctionPair := c.active.map (·.pair)

def registry (c : Catalog) : Except BridgeError TypeRegistry :=
  TypeRegistry.standard.registerAll c.types

def renderOptions (c : Catalog) : RenderOptions := ⟨c.output.runtime, c.output.imports⟩

end Catalog

end NativeBridge
