/-
  NativeBridge/Unit.lean
  ======================
  **Units.**  A unit is the list of bridges of a catalog together with its text.
-/
import NativeBridge.Bridge.Generation
import NativeBridge.Catalog.Decoding

namespace NativeBridge

structure BridgeUnit where
  bridges : List Bridge
  text : String
  deriving DecidableEq, Repr

def BridgeUnit.ofBridges (o : RenderOptions) (bridges : List Bridge) : BridgeUnit :=
  ⟨bridges, unitText bridges o⟩

/-- The unit of a catalog: first the registry, then the bridges, then the text. -/
def Catalog.unit (c : Catalog) : Logged BridgeUnit :=
  match c.registry with
  | .error e => .fail e
  | .ok r =>
    (bridgesOf r c.output.implementation c.pairs).map (.ofBridges c.renderOptions)

end NativeBridge
