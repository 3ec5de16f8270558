/-
  NativeBridge/Bridge/Rendering.lean
  ==================================
  **The text of a unit.**  A unit starts with a marker, the lints it switches off and
  its imports; then every bridge follows, each behind an empty line.  The exported
  symbol stands in a string literal, so quotes and backslashes in it are escaped.
-/
import NativeBridge.Bridge.Basic
import NativeBridge.Text.Blank

namespace NativeBridge

structure RenderOptions where
  runtime : String
  imports : List String
  deriving DecidableEq, Repr

/-- The crate that a unit takes its prelude from unless another one is named. -/
def standardRuntime : String := "jnibridge_runtime"

/-! ### Bridges -/

def escapeChar (c : Char) : List Char := if c = '\\' ∨ c = '"' then ['\\', c] else [c]

def escapeSymbol (symbol : String) : String :=
  String.ofList (symbol.toList.flatMap escapeChar)

def Statement.text : Statement → String
  | .run c => c.text ++ ";"
  | .bind name c => "let " ++ name ++ " = " ++ c.text ++ ";"

def Scope.headText (s : Scope) : String :=
  "    run_with_exception_conversion(" ++ s.env ++ ", " ++ s.default ++ ", || \x7b"

def Scope.lines (s : Scope) : List String :=
  [s.headText] ++
  s.statements.map (fun st => "        " ++ st.text) ++
  ["        Ok(" ++ s.value ++ ")", "    \x7d)"]

def Bridge.exportLine (b : Bridge) : String :=
  "#[unsafe(export_name = \"" ++ escapeSymbol b.exportName ++ "\")]"

def Parameter.line (p : Parameter) : String := "    " ++ p.name ++ ": " ++ p.type ++ ","

/-- The end of the head; a result of the unit type is not written. -/
def Bridge.returnLine (b : Bridge) : String :=
  if b.returnsNothing then ") \x7b" else ") -> " ++ b.returns ++ " \x7b"

def Bridge.lines (b : Bridge) : List String :=
  [b.exportLine, "pub extern \"system\" fn " ++ b.ident ++ "("] ++
  b.params.map Parameter.line ++
  [b.returnLine] ++
  b.prologue.map (fun st => "    " ++ st.text) ++
  b.scope.lines ++
  ["\x7d"]

/-! ### Units -/

def unitMarker : String := "// Generated by jnibridge, do not edit!"

def allowedLints : List String :=
  ["non_snake_case", "unused_variables", "clippy::let_and_return", "clippy::let_unit_value",
   "clippy::redundant_locals"]

/-- An import without the blanks around it and without semicolons at its end. -/
def importPath (path : String) : String :=
  String.ofList ((Text.trim path.toList).reverse.dropWhile (· == ';')).reverse

def preamble (o : RenderOptions) : List String :=
  [unitMarker, "", "#![allow("] ++
  allowedLints.map (fun lint => "    " ++ lint ++ ",") ++
  [")]", "", "use " ++ o.runtime ++ "::prelude::*;"] ++
  o.imports.map (fun path => "use " ++ importPath path ++ ";")

def unitLines (bridges : List Bridge) (o : RenderOptions) : List String :=
  preamble o ++ bridges.flatMap fun b => "" :: b.lines

/-- The text of a unit: its lines, each with a line end. -/
def unitText (bridges : List Bridge) (o : RenderOptions) : String :=
  String.join ((unitLines bridges o).map (· ++ "\n"))

end NativeBridge
