import Registry.FileTree
import Registry.Settings.Check
import Registry.Settings.Overlay
import Registry.Settings.Toml

/-! # Layers of settings

Settings come from a global file, the file of the workspace and a file asked for by name, each laid
over the ones before, and from what is given for one run. Only the file asked for must exist. Who
has no home has no global file either.
-/

namespace Registry.Settings

/-- The name of the directory with a file of settings, in a workspace or at home. -/
def directoryName : Path := ⟨".scopegraph"⟩

def fileName : Path := ⟨"config.toml"⟩

/-- The file of a workspace. -/
def localPath (workspace : Path) : Path :=
  (workspace.join directoryName).join fileName

/-- The settings in a file. -/
def readFile (t : FileTree) (current : Location) (p : Path) : Except SettingsError Settings :=
  match t.readText current p with
  | .error e => .error (.unreadable p e)
  | .ok text => match parse? text with
      | some s => .ok s
      | none => .error (.malformed p "no settings")

/-- The settings in a file that may be missing. -/
def readFile? (t : FileTree) (current : Location) (p : Path) :
    Except SettingsError (Option Settings) :=
  if t.contains current p then some <$> readFile t current p else .ok none

/-- Write settings to a file, making the directories that lead to it if its own is missing. -/
def writeFile (t : FileTree) (current : Location) (p : Path) (s : Settings) :
    Except SettingsError Unit × FileTree :=
  let (made, t) : Except SettingsError Unit × FileTree := match p.parent? with
    | none => (.ok (), t)
    | some above =>
        if t.contains current above then (.ok (), t)
        else match t.makeDirectories current above with
          | (.ok (), t) => (.ok (), t)
          | (.error e, t) => (.error (.noDirectory above e), t)
  match made with
  | .error e => (.error e, t)
  | .ok () => match t.writeText current p s.render with
      | .ok t => (.ok (), t)
      | .error e => (.error (.unwritable p e), t)

/-- Make a directory with a file of default settings, keeping what is there; gives the file. -/
def initDirectory (t : FileTree) (current : Location) (dir : Path) :
    Except SettingsError Path × FileTree :=
  let (made, t) : Except SettingsError Unit × FileTree :=
    if t.contains current dir then (.ok (), t)
    else match t.makeDirectories current dir with
      | (.ok (), t) => (.ok (), t)
      | (.error e, t) => (.error (.noDirectory dir e), t)
  let file := dir.join fileName
  match made with
  | .error e => (.error e, t)
  | .ok () =>
      if t.contains current file then (.ok file, t)
      else
        let (written, t) := writeFile t current file {}
        (written.map fun _ => file, t)

/-- Where settings come from. The global ones, once read, are remembered. -/
structure Layers where
  globalDir : Option Path
  explicit : Option Path := none
  remembered : Option Settings := none
  deriving DecidableEq, Repr

namespace Layers

def globalPath (l : Layers) : Option Path :=
  l.globalDir.map (·.join fileName)

/-- Read the global file again when it is next needed. -/
def forget (l : Layers) : Layers :=
  { l with remembered := none }

/-- The settings of the global file, if there is one. -/
def readGlobal (t : FileTree) (current : Location) (l : Layers) :
    Except SettingsError (Option Settings) × Layers :=
  match l.remembered with
  | some s => (.ok (some s), l)
  | none => match l.globalPath with
      | none => (.ok none, l)
      | some p => match readFile? t current p with
          | .error e => (.error e, l)
          | .ok found => (.ok found, { l with remembered := found })

/-- Write settings to the global file. -/
def saveGlobal (t : FileTree) (current : Location) (s : Settings) (l : Layers) :
    Except SettingsError Unit × FileTree :=
  match l.globalPath with
  | none => (.error .noHome, t)
  | some p => writeFile t current p s

/-- Make the global directory with a file of default settings; gives the file. -/
def initGlobal (t : FileTree) (current : Location) (l : Layers) :
    Except SettingsError Path × FileTree :=
  match l.globalDir with
  | none => (.error .noHome, t)
  | some dir => initDirectory t current dir

/-- The settings of the file of a workspace, if there is one. -/
def readLocal (t : FileTree) (current : Location) (workspace : Path) :
    Except SettingsError (Option Settings) :=
  readFile? t current (localPath workspace)

/-- The settings of the file that was asked for, if one was. -/
def readExplicit (t : FileTree) (current : Location) (l : Layers) :
    Except SettingsError (Option Settings) :=
  match l.explicit with
  | none => .ok none
  | some p =>
      if t.contains current p then some <$> readFile t current p else .error (.missing p)

/-- All layers laid over the defaults. -/
def stack (layers : List (Option Settings)) : Settings :=
  (layers.filterMap id).foldl overlay {}

/-- The settings for a workspace and one run, if they can be used. -/
def load (t : FileTree) (current : Location) (workspace : Path) (o : Overrides) (l : Layers) :
    Except SettingsError Settings × Layers :=
  match l.readGlobal t current with
  | (.error e, l) => (.error e, l)
  | (.ok found, l) =>
      let result := do
        let inWorkspace ← readLocal t current workspace
        let asked ← l.readExplicit t current
        let s := (stack [found, inWorkspace, asked]).override o
        s.check
        return s
      (result, l)

end Layers
end Registry.Settings
