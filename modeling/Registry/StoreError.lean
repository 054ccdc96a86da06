import Registry.Element
import Registry.FileError

/-! # Store errors

Why an operation on an element store fails.
-/

namespace Registry

inductive StoreError where
  /-- The database refused, for a reason of its own. -/
  | database (reason : String)
  | versionMismatch (expected found : String)
  | elementNotFound (id : ElementId)
  | invalidData (reason : String)
  /-- A text that is no JSON of the type asked for. -/
  | malformed (reason : String)
  | file (cause : FileError)
  deriving DecidableEq, Repr

namespace StoreError

def duplicateId : StoreError :=
  .database "UNIQUE constraint failed: elements.id"

def duplicateUuid : StoreError :=
  .database "UNIQUE constraint failed: elements.uuid"

def notADatabase : StoreError :=
  .database "file is not a database"

def cannotOpen (path : String) : StoreError :=
  .database ("unable to open database file: " ++ path)

def message : StoreError → String
  | .database reason => "SQLite error: " ++ reason
  | .versionMismatch expected found =>
      "Schema version mismatch: expected " ++ expected ++ ", found " ++ found
  | .elementNotFound id => "Element not found: " ++ toString id
  | .invalidData reason => "Invalid data: " ++ reason
  | .malformed reason => "JSON serialization error: " ++ reason
  | .file cause => "IO error: " ++ cause.message

end StoreError
end Registry
