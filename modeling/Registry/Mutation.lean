import Registry.Snapshot.Build
import Registry.Tables.Removal

/-! # Mutations

A command looks at a snapshot and asks a service to change what is stored. A service either
carries a request out or only takes note of it.
-/

namespace Registry

/-- The request to remove an element, named as it is in the snapshot. -/
structure Mutation where
  element : ElementId
  typeId : String
  title : String
  /-- How many elements were deleted, once that is known. -/
  removed : Option Nat := none
  deriving DecidableEq, Repr

namespace Mutation

def remove (e : Element) : Mutation where
  element := e.id
  typeId := e.typeId
  title := e.title

def name (_ : Mutation) : String := "RemoveElement"

def display (m : Mutation) : String :=
  m.name ++ "(" ++ m.typeId ++ " #" ++ toString m.element ++ " '" ++ m.title ++ "')"

end Mutation

/-- Why a command failed. -/
inductive CommandError where
  | execution (command : String) (cause : StoreError)
  | rejected (command : String) (reason : String)
  | retrieval (cause : RetrievalError)
  deriving DecidableEq, Repr

namespace CommandError

def message : CommandError → String
  | .execution command cause => "Command '" ++ command ++ "' failed: " ++ cause.message
  | .rejected command reason => "Command '" ++ command ++ "' rejected: " ++ reason
  | .retrieval cause => "Graph construction failed: " ++ cause.message

end CommandError

/-- Carries out mutations on a state in `σ`. -/
structure Service (σ : Type) where
  execute : Mutation → σ → Except CommandError Mutation × σ

namespace Service

variable {σ τ : Type}

/-- Removes from the tables, and tells how many elements are gone. -/
def tables : Service Tables where
  execute m t :=
    match t.remove m.element with
    | (.ok removed, t) => (.ok { m with removed := some removed }, t)
    | (.error cause, t) => (.error (.execution m.display cause), t)

/-- Takes note of the requests that it does not refuse, and changes nothing. -/
def recording (refuse : Mutation → Option CommandError) : Service (List Mutation) where
  execute m noted :=
    match refuse m with
    | some error => (.error error, noted)
    | none => (.ok m, noted ++ [m])

/-- Takes note of all requests. -/
def dryRun : Service (List Mutation) :=
  recording fun _ => none

/-- The service on the first part of a state. -/
def left (service : Service σ) : Service (σ × τ) where
  execute m s :=
    let (answer, state) := service.execute m s.1
    (answer, state, s.2)

/-- The service on the second part of a state. -/
def right (service : Service τ) : Service (σ × τ) where
  execute m s :=
    let (answer, state) := service.execute m s.2
    (answer, s.1, state)

end Service

/-- The source on the first part of a state. -/
def Source.left {σ τ : Type} (source : Source σ) : Source (σ × τ) where
  query types scope s :=
    let (answer, state) := source.query types scope s.1
    (answer, state, s.2)
  fetch id facets s :=
    let (answer, state) := source.fetch id facets s.1
    (answer, state, s.2)
  fetchMany ids facets s :=
    let (answer, state) := source.fetchMany ids facets s.1
    (answer, state, s.2)

/-- A command that works on a snapshot and may change the state it was taken of. -/
structure GraphCommand (σ α : Type) where
  spec : GraphSpec
  run : Snapshot → σ → Except CommandError α × σ

/-- Build the snapshot that a command asks for and run the command on it. -/
def GraphCommand.execute {σ α : Type} (command : GraphCommand σ α) (source : Source σ)
    (r : Retrieval σ) : Except CommandError α × Retrieval σ :=
  match Snapshot.build source command.spec.loaders command.spec.filter r with
  | (.error e, r) => (.error (.retrieval e), r)
  | (.ok g, r) =>
      match command.run g r.state with
      | (answer, state) => (answer, { r with state })

end Registry
