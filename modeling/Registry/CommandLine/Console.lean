import Registry.Mutation
import Registry.Settings.Layers
import Registry.StoreFile

/-! # Console

What a command works on: the files, what it printed, and what it told the user besides. A failure
says step by step what was attempted, and ends with the cause.
-/

namespace Registry.CommandLine

inductive Cause where
  | file (error : FileError)
  | store (error : StoreError)
  | retrieval (error : RetrievalError)
  | command (error : CommandError)
  | settings (error : SettingsError)
  deriving DecidableEq, Repr

def Cause.messages : Cause → List String
  | .file error => [error.message]
  | .store error => [error.message]
  | .retrieval error => error.message :: (error.cause?.map StoreError.message).toList
  | .command error => [error.message]
  | .settings error => [error.message]

/-- Why a command failed: what was attempted, if that helps, and what went wrong there. -/
structure Failure where
  attempt : Option String := none
  cause : Option Cause := none
  deriving DecidableEq, Repr

/-- The messages of a failure, the cause last. -/
def Failure.chain (f : Failure) : List String :=
  f.attempt.toList ++ (f.cause.map Cause.messages).getD []

structure Console where
  files : FileTree
  /-- What was printed. -/
  output : String := ""
  /-- What was told besides. -/
  notes : String := ""

/-- A piece of a command: it works on the console and may fail. -/
abbrev Work (α : Type) := ExceptT Failure (StateM Console) α

namespace Work

variable {α ε : Type}

/-- Print lines. -/
def print (lines : List String) : Work Unit :=
  modify fun c => { c with output := c.output ++ String.join (lines.map (· ++ "\n")) }

/-- Print a text as it is. -/
def printText (text : String) : Work Unit :=
  modify fun c => { c with output := c.output ++ text }

/-- Tell the user something, unless silence was asked for. -/
def note (quiet : Bool) (line : String) : Work Unit :=
  if quiet then return else modify fun c => { c with notes := c.notes ++ line ++ "\n" }

/-- Give up without further cause. -/
def stop (message : String) : Work α :=
  throw { attempt := some message }

/-- Take a result, or give up telling what was attempted. -/
def take (attempt : Option String) (cause : ε → Cause) (result : Except ε α) : Work α :=
  match result with
  | .ok a => return a
  | .error e => throw { attempt, cause := some (cause e) }

/-- Look at the files. -/
def look (view : FileTree → α) : Work α :=
  return view (← get).files

/-- Change the files, or give up telling what was attempted. What was changed before a failure
    stays. -/
def change (attempt : Option String) (cause : ε → Cause)
    (step : FileTree → Except ε α × FileTree) : Work α := do
  let (result, files) := step (← get).files
  modify fun c => { c with files }
  take attempt cause result

/-- Change the files, or give up telling what was attempted and leave them. -/
def replace (attempt : Option String) (cause : ε → Cause)
    (step : FileTree → Except ε FileTree) : Work Unit := do
  let files ← take attempt cause (step (← get).files)
  modify fun c => { c with files }

end Work
end Registry.CommandLine
