/-
  NativeBridge/Command/Execution.lean
  ===================================
  **Running a request.**  A request needs three things from the file system: what is
  found at the path of the catalog, whether the destination is current, and the writing
  of the destination.  What is made of them is said here without a file system; on a
  tree, `run` puts the parts together.

  Nothing is written before the unit is complete, and a check writes nothing.
-/
import NativeBridge.Command.Report
import NativeBridge.Command.Response
import NativeBridge.Files.UnitFile

namespace NativeBridge.Command

/-! ### The catalog -/

inductive Reading
  | noFile
  | fault (f : FileFault)
  | text (s : String)
  deriving DecidableEq, Repr

def catalogAt (path : String) : Reading → Except CommandError Catalog
  | .noFile => .error (.noCatalog path)
  | .fault f => .error (.during (.loading path) (.file f))
  | .text s =>
    match Catalog.parse s with
    | .ok c => .ok c
    | .error e => .error (.during (.loading path) e)

/-! ### Generating -/

/-- The given destination, or the one that the catalog names, relative to itself. -/
def GenerateOptions.destination (o : GenerateOptions) (c : Catalog) : Except CommandError String :=
  match o.output, c.output.path with
  | some path, _ => .ok path
  | none, some path => .ok (joinPath (directoryPart o.catalog) path)
  | none, none => .error (.noDestination o.catalog)

structure Plan where
  destination : String
  unit : BridgeUnit
  deriving DecidableEq, Repr

/-- What a request to generate comes to, with the log so far. -/
structure Planned where
  log : List Event
  result : Except CommandError Plan

def GenerateOptions.plan (o : GenerateOptions) (r : Reading) : Planned :=
  match catalogAt o.catalog r with
  | .error e => ⟨[], .error e⟩
  | .ok c =>
    match o.destination c with
    | .error e => ⟨[], .error e⟩
    | .ok destination =>
      let g := c.unit
      ⟨.resolved o.catalog destination o.check :: g.log,
        match g.result with
        | .error e => .error (.during (.generating o.catalog) e)
        | .ok u => .ok ⟨destination, u⟩⟩

def GenerateOptions.compared (o : GenerateOptions) (log : List Event) (p : Plan) :
    Except FileFault Bool → Response
  | .ok true =>
    .success log (p.destination ++ s!" is up to date ({p.unit.bridges.length} bridges)\n")
  | .ok false => .failure log (.outOfDate p.destination o.catalog)
  | .error f => .failure log (.during .comparing (.file f))

def Plan.written (p : Plan) (log : List Event) : Except FileFault Unit → Response
  | .ok () =>
    .success (log ++ [p.unit.wroteEvent p.destination])
      (s!"Generated {p.unit.bridges.length} bridge(s) → " ++ p.destination ++ "\n")
  | .error f => .failure log (.during (.writing p.destination) (.file f))

/-! ### Checking -/

/-- What a check finds, with what was logged. -/
structure Checked where
  log : List Event
  result : Except CommandError Report

def CheckOptions.report (o : CheckOptions) (r : Reading) : Checked :=
  match catalogAt o.catalog r with
  | .error e => ⟨[], .error e⟩
  | .ok c =>
    match c.registry with
    | .error e => ⟨[], .error (.during .buildingRegistry e)⟩
    | .ok registry =>
      let g := c.unit
      ⟨g.log,
        match g.result with
        | .error e => .error (.during (.validating o.catalog) e)
        | .ok u => .ok (.ofUnit o.catalog c registry u)⟩

def CheckOptions.answer (o : CheckOptions) (r : Reading) : Response :=
  match o.report r with
  | ⟨log, .error e⟩ => .failure log e
  | ⟨log, .ok report⟩ => .success log (report.shown o.json)

/-! ### On a tree -/

def readingOf (t : FileTree) (path : String) : Reading :=
  if t.isFile path then
    match t.readText path with
    | .ok s => .text s
    | .error f => .fault f
  else .noFile

def generate (t : FileTree) (o : GenerateOptions) : FileTree × Response :=
  match o.plan (readingOf t o.catalog) with
  | ⟨log, .error e⟩ => (t, .failure log e)
  | ⟨log, .ok p⟩ =>
    if o.check then (t, o.compared log p (t.holdsText p.destination p.unit.text))
    else
      let (t', r) := t.writeText p.destination p.unit.text
      (t', p.written log r)

def check (t : FileTree) (o : CheckOptions) : FileTree × Response :=
  (t, o.answer (readingOf t o.catalog))

def Request.run (t : FileTree) : Request → FileTree × Response
  | .generate o => Command.generate t o
  | .check o => Command.check t o

def run (t : FileTree) (args : List String) : FileTree × Response :=
  match Invocation.ofArguments args with
  | .run _ request => request.run t
  | .version => (t, .success [] version)
  | .help topic => (t, .success [] (usage topic))
  | .misuse => (t, .misuse)

end NativeBridge.Command
