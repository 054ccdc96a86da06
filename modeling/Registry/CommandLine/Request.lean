import Registry.CommandLine.Matching
import Registry.Element
import Registry.Path

/-! # Requests

What a command line asks for. An option that every command takes may stand before or behind the
name of a subcommand; the innermost one counts, and one in the words beats the environment.
-/

namespace Registry.CommandLine

/-- The options that every command takes. -/
structure Common where
  workspace : Option Path := none
  config : Option Path := none
  database : Option Path := none
  verbose : Bool := false
  quiet : Bool := false
  deriving DecidableEq, Repr

inductive SettingsForm where
  | listing
  | json
  | toml
  deriving DecidableEq, Repr

/-- Which part of a store a graph shows. -/
inductive GraphChoice where
  /-- Elements of the types with links of the relations; no type or relation means any. -/
  | chosen (types relations : List String)
  | nodesOnly (types : List String)
  | forCleanup
  deriving DecidableEq, Repr

inductive Request where
  | init (force noConfig : Bool)
  | importData (file : Path) (json : Bool)
  | element (target : String) (facets : FacetSet) (json : Bool)
  | graph (scope : Option ScopeId) (choice : GraphChoice) (json : Bool)
  | cleanup (scope : ScopeId) (dryRun json : Bool)
  | status (showConfig json : Bool)
  | configShow (form : SettingsForm)
  | configPath (json : Bool)
  | configInit (atHome : Bool)
  deriving DecidableEq

namespace Level

def has (l : Level) (id : ArgId) : Bool :=
  l.given.any (·.1 = id)

/-- The values of an argument in the words of the command. -/
def values (l : Level) (id : ArgId) : List String :=
  (l.given.filter (·.1 = id)).flatMap (·.2)

def value? (l : Level) (id : ArgId) : Option String :=
  (l.values id).getLast?

def text (l : Level) (id : ArgId) : String :=
  (l.value? id).getD ""

def number? (l : Level) (id : ArgId) : Option Int64 :=
  (l.value? id).bind Text.int64?

def facets (l : Level) : FacetSet :=
  match (l.values .facets).flatMap fun value => (facetList? value).getD [] with
  | [] => .all
  | kinds => .ofList kinds

def graphChoice (l : Level) : GraphChoice :=
  if l.has .cleanup then .forCleanup
  else if l.has .nodesOnly then .nodesOnly (l.values .types)
  else .chosen (l.values .types) (l.values .relations)

/-- What the innermost command asks for; a group of commands asks for nothing. -/
def request? (l : Level) : Option Request :=
  let json := l.has .json
  match l.verb with
  | .program | .config => none
  | .init => some (.init (l.has .force) (l.has .noConfig))
  | .importData => some (.importData ⟨l.text .file⟩ json)
  | .element => some (.element (l.text .target) l.facets json)
  | .graph => some (.graph (l.number? .scope) l.graphChoice json)
  | .cleanup => some (.cleanup ((l.number? .scope).getD 0) (l.has .dryRun) json)
  | .status => some (.status (l.has .showConfig) json)
  | .configShow =>
      some (.configShow (if l.has .toml then .toml else if json then .json else .listing))
  | .configPath => some (.configPath json)
  | .configInit => some (.configInit (l.has .atHome))

end Level

/-- The value of a common option. -/
def commonValue? (levels : List Level) (id : ArgId) : Option String :=
  match (levels.filterMap (·.value? id)).getLast? with
  | some value => some value
  | none => (levels.filterMap (·.fromEnvironment.lookup id)).getLast?

def common (levels : List Level) : Common where
  workspace := (commonValue? levels .workspace).map Path.mk
  config := (commonValue? levels .config).map Path.mk
  database := (commonValue? levels .database).map Path.mk
  verbose := levels.any (·.has .verbose)
  quiet := levels.any (·.has .quiet)

/-- What the words behind the name of the program ask for. -/
def parse (environment : List (String × String)) (words : List String) :
    Except Refusal (Common × Request) := do
  let levels ← levels environment .program {} words
  match levels.getLast?.bind Level.request? with
  | some request => return (common levels, request)
  | none => throw .subcommandMissing

end Registry.CommandLine
