import Registry.Facet.Kind
import Registry.Text.Decimal
import Registry.Text.Pieces

/-! # Grammar of the command line

Which commands there are, which arguments each of them takes, and what values those have.
-/

namespace Registry.CommandLine

/-- Why a command line is not carried out. -/
inductive Refusal where
  | helpAsked
  | versionAsked
  | nothingAsked
  | subcommandMissing
  | subcommandUnknown
  | argumentMissing
  | argumentUnknown
  /-- An option without its value, or an empty path. -/
  | valueMissing
  /-- A value that is no number or no facet where one is wanted. -/
  | valueInvalid
  | valueUnwanted
  | conflict
  deriving DecidableEq, Repr

/-- The status that the program ends with. -/
def Refusal.status : Refusal → Nat
  | .helpAsked | .versionAsked => 0
  | _ => 2

inductive Verb where
  /-- The program itself. -/
  | program
  | init
  | importData
  | element
  | graph
  | cleanup
  | status
  | config
  | configShow
  | configPath
  | configInit
  deriving DecidableEq, Repr

namespace Verb

def name : Verb → String
  | .program => "scopegraph"
  | .init | .configInit => "init"
  | .importData => "import"
  | .element => "element"
  | .graph => "graph"
  | .cleanup => "cleanup"
  | .status => "status"
  | .config => "config"
  | .configShow => "show"
  | .configPath => "path"

/-- The commands below this one. -/
def subcommands : Verb → List Verb
  | .program => [.init, .importData, .element, .graph, .cleanup, .status, .config]
  | .config => [.configShow, .configPath, .configInit]
  | _ => []

def isGroup (v : Verb) : Bool :=
  !v.subcommands.isEmpty

/-- The subcommand of a name. -/
def subcommand? (v : Verb) (name : String) : Option Verb :=
  v.subcommands.find? (·.name = name)

end Verb

/-- What an argument stands for. -/
inductive ArgId where
  | workspace
  | config
  | verbose
  | quiet
  | database
  | help
  | version
  | force
  | noConfig
  | file
  | json
  | target
  | facets
  | scope
  | types
  | relations
  | nodesOnly
  | cleanup
  | dryRun
  | showConfig
  | toml
  | atHome
  deriving DecidableEq, Repr

inductive ValueKind where
  | path
  | number
  | text
  /-- Facets with commas between them. -/
  | facets
  deriving DecidableEq, Repr

/-- The facets of a list with commas between them. -/
def facetList? (value : String) : Option (List FacetKind) :=
  (Text.pieces ',' value.toList).mapM fun piece => (FacetKind.parse (String.ofList piece)).toOption

/-- Refuses a value that is not of the kind. -/
def ValueKind.check (kind : ValueKind) (value : String) : Except Refusal Unit :=
  match kind with
  | .path => if value.isEmpty then .error .valueMissing else .ok ()
  | .number => if (Text.int64? value).isSome then .ok () else .error .valueInvalid
  | .text => .ok ()
  | .facets => if (facetList? value).isSome then .ok () else .error .valueInvalid

/-- An argument. Without a kind of values it is a flag. -/
structure Arg where
  id : ArgId
  long : String
  short : Option Char := none
  kind : Option ValueKind := none
  repeatable : Bool := false
  /-- The environment variable that stands in for it. -/
  standIn : Option String := none
  deriving DecidableEq, Repr

/-- Options that every command takes. -/
def commonOptions : List Arg :=
  [{ id := .workspace, long := "workspace", short := some 'w', kind := some .path,
     standIn := some "SCOPEGRAPH_WORKSPACE" },
   { id := .config, long := "config", short := some 'c', kind := some .path,
     standIn := some "SCOPEGRAPH_CONFIG" },
   { id := .verbose, long := "verbose", short := some 'v' },
   { id := .quiet, long := "quiet", short := some 'q' },
   { id := .database, long := "database", kind := some .path,
     standIn := some "SCOPEGRAPH_DATABASE" },
   { id := .help, long := "help", short := some 'h' },
   { id := .version, long := "version", short := some 'V' }]

def jsonOption : Arg :=
  { id := .json, long := "json" }

def scopeOption : Arg :=
  { id := .scope, long := "scope", short := some 's', kind := some .number }

namespace Verb

/-- Options of the command's own. -/
def ownOptions : Verb → List Arg
  | .init => [{ id := .force, long := "force", short := some 'f' },
      { id := .noConfig, long := "no-config" }]
  | .element =>
      [{ id := .facets, long := "facets", short := some 'f', kind := some .facets,
         repeatable := true }, jsonOption]
  | .graph =>
      [scopeOption,
       { id := .types, long := "type", short := some 't', kind := some .text, repeatable := true },
       { id := .relations, long := "relation", short := some 'r', kind := some .text,
         repeatable := true },
       { id := .nodesOnly, long := "nodes-only" }, { id := .cleanup, long := "cleanup" },
       jsonOption]
  | .cleanup => [scopeOption, { id := .dryRun, long := "dry-run", short := some 'n' }, jsonOption]
  | .status => [{ id := .showConfig, long := "show-config" }, jsonOption]
  | .configShow => [jsonOption, { id := .toml, long := "toml" }]
  | .configInit => [{ id := .atHome, long := "global" }]
  | .importData | .configPath => [jsonOption]
  | .program | .config => []

def options (v : Verb) : List Arg :=
  v.ownOptions ++ commonOptions

/-- The argument that is told by its place. -/
def positional : Verb → Option Arg
  | .importData => some { id := .file, long := "", kind := some .path }
  | .element => some { id := .target, long := "", kind := some .text }
  | _ => none

/-- Arguments that must be given. -/
def required : Verb → List ArgId
  | .importData => [.file]
  | .element => [.target]
  | .cleanup => [.scope]
  | _ => []

/-- Arguments that must not be given together. -/
def conflicts : Verb → List (ArgId × ArgId)
  | .graph => [(.relations, .nodesOnly), (.cleanup, .types), (.cleanup, .relations),
      (.cleanup, .nodesOnly)]
  | .configShow => [(.toml, .json)]
  | _ => []

end Verb
end Registry.CommandLine
