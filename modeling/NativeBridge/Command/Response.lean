/-
  NativeBridge/Command/Response.lean
  ==================================
  **Answers of the command line.**  An answer is an exit code, what is printed, and
  what was logged.  An error is shown as a chain: what was being done, what went wrong,
  and what caused that.
-/
import NativeBridge.Command.Arguments
import NativeBridge.Fault
import NativeBridge.Event

namespace NativeBridge.Command

structure Response where
  code : Nat
  stdout : String
  stderr : String
  log : List Event
  deriving DecidableEq, Repr

/-! ### Errors -/

inductive Activity
  | loading (catalog : String)
  | generating (catalog : String)
  | buildingRegistry
  | validating (catalog : String)
  | writing (destination : String)
  | comparing
  deriving DecidableEq, Repr

def Activity.texts : Activity → List String
  | loading catalog => ["loading " ++ catalog]
  | generating catalog => ["generating bridges from " ++ catalog]
  | buildingRegistry => ["building type registry"]
  | validating catalog => ["validating " ++ catalog]
  | writing destination => ["writing " ++ destination]
  | comparing => []

inductive CommandError
  | noCatalog (path : String)
  | noDestination (catalog : String)
  | outOfDate (destination catalog : String)
  | during (activity : Activity) (error : BridgeError)
  deriving DecidableEq, Repr

def causes : BridgeError → List String
  | .file fault => [(BridgeError.file fault).message, fault.message]
  | .document fault => [(BridgeError.document fault).message, fault.message]
  | e => [e.message]

def CommandError.message : CommandError → String
  | noCatalog path => "catalog file not found: " ++ path
  | noDestination catalog =>
    "no output path: pass --output or set [output].path in " ++ catalog
  | outOfDate destination catalog =>
    destination ++ " is out of date; run `jnibridge generate --catalog " ++ catalog ++ "`"
  | during activity e => ": ".intercalate (activity.texts ++ causes e)

def Response.failure (log : List Event) (e : CommandError) : Response :=
  ⟨1, "", "error: " ++ e.message ++ "\n", log⟩

def Response.success (log : List Event) (stdout : String) : Response := ⟨0, stdout, "", log⟩

/-! ### Answers without a request -/

def version : String := "jnibridge 0.1.0\n"

def usage : Topic → String
  | .program =>
    "Native-boundary bridge generator\n\n" ++
    "Usage: jnibridge [OPTIONS] <COMMAND>\n\n" ++
    "Commands:\n" ++
    "  generate  Generate the bridge unit described by a catalog\n" ++
    "  check     Validate a catalog and summarize the bridges it would produce\n" ++
    "  help      Print this message or the help of the given subcommand(s)\n\n" ++
    "Options:\n" ++
    "  -v, --verbose...  Increase log verbosity (-v info, -vv debug); RUST_LOG overrides\n" ++
    "  -h, --help        Print help\n" ++
    "  -V, --version     Print version\n"
  | .generate =>
    "Generate the bridge unit described by a catalog\n\n" ++
    "Usage: jnibridge generate [OPTIONS]\n\n" ++
    "Options:\n" ++
    "      --catalog <CATALOG>  Catalog file [default: bridges.toml]\n" ++
    "  -v, --verbose...         Increase log verbosity (-v info, -vv debug); RUST_LOG overrides\n" ++
    "      --output <OUTPUT>    Output file (overrides [output].path)\n" ++
    "      --check              Fail if the output is missing or out of date instead of writing it\n" ++
    "  -h, --help               Print help\n"
  | .check =>
    "Validate a catalog and summarize the bridges it would produce\n\n" ++
    "Usage: jnibridge check [OPTIONS]\n\n" ++
    "Options:\n" ++
    "      --catalog <CATALOG>  Catalog file [default: bridges.toml]\n" ++
    "      --json               Print the summary as JSON\n" ++
    "  -v, --verbose...         Increase log verbosity (-v info, -vv debug); RUST_LOG overrides\n" ++
    "  -h, --help               Print help\n"
  | .help =>
    "Print this message or the help of the given subcommand(s)\n\n" ++
    "Usage: jnibridge help [COMMAND]...\n\n" ++
    "Arguments:\n" ++
    "  [COMMAND]...  Print help for the subcommand(s)\n"

/-- The answer to arguments that make no sense; nothing is read or written. -/
def Response.misuse : Response := ⟨2, "", usage .program, []⟩

end NativeBridge.Command
