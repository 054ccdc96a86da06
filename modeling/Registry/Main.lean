import Registry.CommandLine.Commands
import Registry.Tables.Text

/-! # The program

Reads the files that a command line is about, runs it on them, and writes back what changed.
-/

namespace Registry.CommandLine

/-- Paths that a run may follow, as far as the files known so far tell. -/
def touched (s : Setting) (request : Request) (files : FileTree) : List Path :=
  let workspace := match s.common.workspace with
    | some p => match files.canonical s.current p with
        | .ok p => p
        | .error _ => p
    | none => FileTree.pathOf s.current
  let stored := match (s.layers.load files s.current workspace s.overrides).1 with
    | .ok settings =>
        let database := settings.databasePath workspace
        database :: Setting.sidecars database ++ settings.logging.file.toList
    | .error _ => []
  let data := match request with
    | .importData file _ => [file]
    | _ => []
  [FileTree.pathOf s.current, workspace, Settings.localPath workspace] ++
    s.layers.globalPath.toList ++ s.common.config.toList ++ stored ++ data

/-- What a file holds, told by its bytes. -/
def contentOf (bytes : ByteArray) : FileContent :=
  match String.fromUTF8? bytes with
  | none => .bytes
  | some text => match Tables.ofText? text with
      | some tables => .store tables
      | none => .text text

/-- Take note of what stands at a place on disk. -/
def learnPlace (t : FileTree) (place : Location) : IO FileTree := do
  let file := (← IO.currentDir) / (FileTree.pathOf place).text
  if ← file.isDir then return t.put place .directory
  else if ← file.pathExists then
    return t.put place (.file (contentOf (← IO.FS.readBinFile file)))
  else return t

/-- Take note of what stands along a path on disk. -/
def learnPath (t : FileTree) (place : Location) : List String → IO FileTree
  | [] => return t
  | part :: rest => do
      if Path.isVoid part then learnPath t place rest
      else if part = ".." then learnPath t place.tail rest
      else learnPath (← learnPlace t (part :: place)) (part :: place) rest

def learn (s : Setting) (t : FileTree) (paths : List Path) : IO FileTree :=
  paths.foldlM (fun t p => learnPath t (FileTree.start s.current p) p.parts) t

def writeEntry (place : Location) (entry : FileEntry) : IO Unit := do
  let file := (← IO.currentDir) / (FileTree.pathOf place).text
  match entry with
  | .directory => IO.FS.createDir file
  | .file (.text text) => IO.FS.writeFile file text
  | .file (.store tables) => IO.FS.writeFile file tables.toText
  | .file .bytes => return

/-- Bring the disk from one state of the files to another. -/
def settleFiles (before after : FileTree) : IO Unit := do
  for (place, _) in before.entries do
    if (after.at? place).isNone then
      IO.FS.removeFile ((← IO.currentDir) / (FileTree.pathOf place).text)
  let outermostFirst := fun (a b : Location × FileEntry) => a.1.length ≤ b.1.length
  for (place, entry) in after.entries.mergeSort (fun a b => decide (outermostFirst a b)) do
    if before.at? place != some entry then writeEntry place entry

/-- The messages of a failure, its causes numbered if there are several. -/
def Failure.report (f : Failure) : String :=
  match f.chain with
  | [] => "Error\n"
  | [message] => "Error: " ++ message ++ "\n"
  | [message, cause] => "Error: " ++ message ++ "\n\nCaused by:\n    " ++ cause ++ "\n"
  | message :: causes =>
      let lines := causes.mapIdx fun i cause => "    " ++ toString i ++ ": " ++ cause ++ "\n"
      "Error: " ++ message ++ "\n\nCaused by:\n" ++ String.join lines

def usage : String :=
  "Usage: scopegraph [OPTIONS] <COMMAND>\n\nCommands:\n" ++
    String.join (Verb.program.subcommands.map fun v => "  " ++ v.name ++ "\n") ++
    "\nOptions:\n" ++ String.join (commonOptions.map fun arg => "  --" ++ arg.long ++ "\n")

def Refusal.report : Refusal → String
  | .helpAsked | .nothingAsked => usage
  | .versionAsked => "scopegraph 0.1.0\n"
  | .subcommandMissing => "error: a subcommand is required\n\n" ++ usage
  | .subcommandUnknown => "error: unrecognized subcommand\n\n" ++ usage
  | .argumentMissing => "error: a required argument is missing\n\n" ++ usage
  | .argumentUnknown => "error: unexpected argument\n\n" ++ usage
  | .valueMissing => "error: a value is required\n\n" ++ usage
  | .valueInvalid => "error: invalid value\n\n" ++ usage
  | .valueUnwanted => "error: unexpected value\n\n" ++ usage
  | .conflict => "error: arguments cannot be used together\n\n" ++ usage

/-- The variables that stand in for options, as far as they are set. -/
def environment : IO (List (String × String)) := do
  let names := commonOptions.filterMap (·.standIn)
  let values ← names.mapM fun name => return (← IO.getEnv name).map fun value => (name, value)
  return values.filterMap id

def runOnDisk (words : List String) : IO UInt32 := do
  let home := ((← IO.getEnv "HOME").filter (!·.isEmpty)).map Path.mk
  let current : Location :=
    ((Path.parts ⟨(← IO.currentDir).toString⟩).filter (!Path.isVoid ·)).reverse
  let environment ← environment
  let before ← match parse environment words with
    | .error _ => pure {}
    | .ok (common, request) => do
        let s : Setting := { home, current, common }
        let t ← learn s {} (touched s request {})
        learn s t (touched s request t)
  let (outcome, after) := run home current environment words before
  settleFiles before after
  match outcome with
  | .refused why =>
      if why.status = 0 then IO.print why.report else IO.eprint why.report
      return why.status.toUInt32
  | .done output notes =>
      IO.eprint notes
      IO.print output
      return 0
  | .failed output notes failure =>
      IO.print output
      IO.eprint (notes ++ failure.report)
      return 1

end Registry.CommandLine

def main (words : List String) : IO UInt32 :=
  Registry.CommandLine.runOnDisk words
