/-
  NativeBridge/Command/Arguments.lean
  ===================================
  **The command line.**  There are two commands.  Arguments are read from left to
  right, and the first that decides something decides it: a request for help or for
  the version ends the reading, and so does a misuse.  An option that takes a value
  takes it from behind an equals sign or from the next argument, which must not look
  like an option itself; no option but the one for verbosity is given twice.
-/
namespace NativeBridge.Command

structure GenerateOptions where
  catalog : String
  output : Option String
  check : Bool
  deriving DecidableEq, Repr

structure CheckOptions where
  catalog : String
  json : Bool
  deriving DecidableEq, Repr

inductive Request
  | generate (options : GenerateOptions)
  | check (options : CheckOptions)
  deriving DecidableEq, Repr

inductive Topic
  | program
  | generate
  | check
  | help
  deriving DecidableEq, Repr

inductive Invocation
  | run (verbosity : Nat) (request : Request)
  | version
  | help (topic : Topic)
  | misuse
  deriving DecidableEq, Repr

/-- The catalog that is meant if none is named. -/
def standardCatalog : String := "bridges.toml"

/-! ### Options of a command -/

inductive Kind
  | generate
  | check
  deriving DecidableEq, Repr

def Kind.topic : Kind → Topic
  | generate => .generate
  | check => .check

structure Given where
  verbosity : Nat
  catalog : Option String
  output : Option String
  flag : Bool
  deriving DecidableEq, Repr

def Kind.flagName : Kind → String
  | generate => "--check"
  | check => "--json"

/-- Whether an option of a command takes a value. -/
def Kind.takesValue (k : Kind) (name : String) : Bool :=
  name == "--catalog" || (k == .generate && name == "--output")

/-- Records the value of an option that takes one; an empty value is none. -/
def Given.setValue (g : Given) (name value : String) : Option Given :=
  if value = "" then none
  else if name = "--catalog" then
    if g.catalog.isSome then none else some { g with catalog := some value }
  else if g.output.isSome then none
  else some { g with output := some value }

/-- The request that the given options amount to. -/
def Given.request (g : Given) : Kind → Request
  | .generate => .generate ⟨g.catalog.getD standardCatalog, g.output, g.flag⟩
  | .check => .check ⟨g.catalog.getD standardCatalog, g.flag⟩

/-- Whether an argument looks like an option; a dash alone does not. -/
def looksLikeOption (a : String) : Bool :=
  match a.toList with
  | '-' :: _ :: _ => true
  | _ => false

def splitAttached (a : String) : Option (String × String) :=
  match a.toList with
  | '-' :: '-' :: cs =>
    match cs.dropWhile (· != '=') with
    | [] => none
    | _ :: value =>
      some (String.ofList ('-' :: '-' :: cs.takeWhile (· != '=')), String.ofList value)
  | _ => none

/-! ### Short options -/

inductive Cluster
  | verbose (n : Nat)
  | help
  | version
  | unknown
  deriving DecidableEq, Repr

/-- Reads the letters of a group, `n` times verbose so far. -/
def clusterAfter (n : Nat) : List Char → Cluster
  | [] => .verbose n
  | c :: cs =>
    if c = 'v' then clusterAfter (n + 1) cs
    else if c = 'h' then .help
    else if c = 'V' then .version
    else .unknown

def cluster (a : String) : Cluster :=
  match a.toList with
  | '-' :: c :: cs => if c = '-' then .unknown else clusterAfter 0 (c :: cs)
  | _ => .unknown

/-! ### Reading -/

def readOptions (k : Kind) : Given → List String → Invocation
  | g, [] => .run g.verbosity (g.request k)
  | g, a :: rest =>
    if a = "--" then
      if rest = [] then .run g.verbosity (g.request k) else .misuse
    else if a = "--help" then .help k.topic
    else if a = "--verbose" then readOptions k { g with verbosity := g.verbosity + 1 } rest
    else if a = k.flagName then
      if g.flag then .misuse else readOptions k { g with flag := true } rest
    else if k.takesValue a then
      match rest with
      | [] => .misuse
      | value :: rest =>
        if looksLikeOption value then .misuse
        else
          match g.setValue a value with
          | some g => readOptions k g rest
          | none => .misuse
    else
      match splitAttached a with
      | some (name, value) =>
        if k.takesValue name then
          match g.setValue name value with
          | some g => readOptions k g rest
          | none => .misuse
        else .misuse
      | none =>
        match cluster a with
        | .verbose n => readOptions k { g with verbosity := g.verbosity + n } rest
        | .help => .help k.topic
        | .version => .misuse
        | .unknown => .misuse

/-- What help is asked about behind the name of the help command. -/
def readTopic : List String → Invocation
  | [] => .help .program
  | ["generate"] => .help .generate
  | ["check"] => .help .check
  | ["help"] => .help .help
  | _ => .misuse

def readFrom (verbosity : Nat) : List String → Invocation
  | [] => .misuse
  | a :: rest =>
    if a = "generate" then readOptions .generate ⟨verbosity, none, none, false⟩ rest
    else if a = "check" then readOptions .check ⟨verbosity, none, none, false⟩ rest
    else if a = "help" then readTopic rest
    else if a = "--help" then .help .program
    else if a = "--version" then .version
    else if a = "--verbose" then readFrom (verbosity + 1) rest
    else
      match cluster a with
      | .verbose n => readFrom (verbosity + n) rest
      | .help => .help .program
      | .version => .version
      | .unknown => .misuse

def Invocation.ofArguments (args : List String) : Invocation := readFrom 0 args

end NativeBridge.Command
