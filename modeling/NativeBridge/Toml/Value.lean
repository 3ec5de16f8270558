/-
  NativeBridge/Toml/Value.lean
  ============================
  **The values of a TOML document.**  Tables keep their keys in the order of the
  document, because the first fault in that order is the one that is reported.
  Dates and times are read but not kept: no part of a catalog holds one, so all
  that matters of such a value is that it is there.
-/
import NativeBridge.Text.Double
import NativeBridge.Text.Quoted

namespace NativeBridge.Toml

open NativeBridge.Text (Double)

inductive Value
  | text (s : String)
  | whole (n : Int)
  | real (x : Double)
  | truth (b : Bool)
  | moment
  | list (items : List Value)
  | table (entries : List (String × Value))
  deriving Repr

abbrev Table := List (String × Value)

def Value.found : Value → String
  | text s => "string " ++ Text.quoted s
  | whole n => s!"integer `{n}`"
  | real x => s!"floating point `{x.text}`"
  | truth b => s!"boolean `{b}`"
  | moment => "map"
  | list _ => "sequence"
  | table _ => "map"

end NativeBridge.Toml
