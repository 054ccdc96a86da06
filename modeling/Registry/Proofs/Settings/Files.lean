import Registry.Proofs.FileTree
import Registry.Proofs.Settings.Written
import Registry.Settings.Layers

/-! # Files of settings

Reading a file depends on nothing but what its path leads to, and writing one leaves that path
leading to the settings that were written.
-/

namespace Registry.Settings

open FileTree

variable {t t' : FileTree} {current place : Location} {p dir file : Path} {s : Settings}

theorem readFile?_eq_none (missing : t.contains current p = false) :
    readFile? t current p = .ok none := by
  rw [readFile?, if_neg (by simp [missing])]

theorem readFile?_congr (same : t.stat current p = t'.stat current p) :
    readFile? t current p = readFile? t' current p := by
  rw [readFile?, readFile?, readFile, readFile, contains_congr same, readText_congr same]

theorem readFile?_of_stat
    (found : t.stat current p = .ok (place, .file (.text s.render))) :
    readFile? t current p = .ok (some s) := by
  rw [readFile?, if_pos (contains_iff.2 ⟨_, found⟩), readFile, readText_of_stat found]
  simp [parse?_render]

section Steps

variable {α : Type} {a : α}

/-- Take the second step on a tree only if the first one succeeds. -/
def andThen (first : Except SettingsError Unit × FileTree)
    (next : FileTree → Except SettingsError α × FileTree) : Except SettingsError α × FileTree :=
  match first with
  | (.ok (), t) => next t
  | (.error e, t) => (.error e, t)

theorem andThen_eq_ok {first : Except SettingsError Unit × FileTree}
    {next : FileTree → Except SettingsError α × FileTree}
    (both : andThen first next = (.ok a, t')) :
    ∃ made, first = (.ok (), made) ∧ next made = (.ok a, t') := by
  obtain ⟨_ | _, made⟩ := first
  · cases both
  · exact ⟨made, rfl, both⟩

end Steps

/-- Make a directory unless it is there. -/
def prepare (t : FileTree) (current : Location) (dir : Path) :
    Except SettingsError Unit × FileTree :=
  if t.contains current dir then (.ok (), t)
  else match t.makeDirectories current dir with
    | (.ok (), t) => (.ok (), t)
    | (.error e, t) => (.error (.noDirectory dir e), t)

theorem prepare_eq_ok (made : prepare t current dir = (.ok (), t')) :
    t.Grows (· = .directory) t' ∧ (t' = t ∨ t' = (t.makeDirectories current dir).2) ∧
      (dir.isEmpty = true ∨ t'.contains current dir = true) := by
  rw [prepare] at made
  split at made
  · rename_i there
    cases made
    exact ⟨.refl t, .inl rfl, .inr there⟩
  · have grows := makeDirectories_grows t current dir
    split at made
    · rename_i prepared grown
      cases made
      rw [grown] at grows ⊢
      refine ⟨grows, .inr rfl, ?_⟩
      cases empty : dir.isEmpty with
      | true => exact .inl rfl
      | false => exact .inr (contains_of_makeDirectories grown empty)
    · cases made

/-- Put settings at a path. -/
def save (t : FileTree) (current : Location) (p : Path) (s : Settings) :
    Except SettingsError Unit × FileTree :=
  match t.writeText current p s.render with
  | .ok t => (.ok (), t)
  | .error e => (.error (.unwritable p e), t)

theorem save_eq_ok (saved : save t current p s = (.ok (), t')) :
    t.writeText current p s.render = .ok t' := by
  rw [save] at saved
  split at saved
  · rename_i written
    cases saved
    exact written
  · cases saved

theorem writeFile_of_parent {above : Path} (parent : p.parent? = some above) :
    writeFile t current p s = andThen (prepare t current above) (save · current p s) := by
  simp only [writeFile, parent, prepare]
  cases t.contains current above with
  | true => rfl
  | false => rcases t.makeDirectories current above with ⟨_ | _, made⟩ <;> rfl

theorem writeFile_of_root (root : p.parent? = none) :
    writeFile t current p s = save t current p s := by
  simp only [writeFile, root]
  rfl

/-- A file is written once the directories that lead to it are made, as far as its own is
    missing. -/
theorem writeFile_eq_ok (written : writeFile t current p s = (.ok (), t')) :
    ∃ made : FileTree, made.writeText current p s.render = .ok t' ∧
      t.Grows (· = .directory) made ∧
      (made = t ∨ ∃ above, p.parent? = some above ∧
        made = (t.makeDirectories current above).2) := by
  cases parent : p.parent? with
  | none =>
      rw [writeFile_of_root parent] at written
      exact ⟨t, save_eq_ok written, .refl t, .inl rfl⟩
  | some above =>
      rw [writeFile_of_parent parent] at written
      obtain ⟨made, prepared, saved⟩ := andThen_eq_ok written
      obtain ⟨grows, grown, -⟩ := prepare_eq_ok prepared
      exact ⟨made, save_eq_ok saved, grows, grown.imp_right fun grown => ⟨above, rfl, grown⟩⟩

theorem stat_of_writeFile (written : writeFile t current p s = (.ok (), t')) :
    ∃ place, t'.stat current p = .ok (place, .file (.text s.render)) := by
  obtain ⟨made, written, -, -⟩ := writeFile_eq_ok written
  obtain ⟨place, -, -, -, -, found⟩ := writeText_eq_ok written
  exact ⟨place, found⟩

theorem checkSchema_default : checkSchema {} = .ok () := by
  decide +kernel

/-- With the default schema, a named database and a known level are all that is asked for. -/
theorem check_of_default (schema : s.cleanup = {}) (named : s.storage.database.isEmpty = false)
    (level : levels.contains (Text.fold s.logging.level) = true) : s.check = .ok () := by
  rw [check, if_neg (by simp [named]), if_pos level, schema, checkSchema_default]

theorem fold_eq_ofList (text : String) :
    Text.fold text = String.ofList (text.toList.map Text.foldChar) := by
  rw [Text.fold, ← String.toList_inj, String.toList_map, String.toList_ofList]

/-- Settings that log more than the default ones. -/
def verbose : Settings where
  logging := { level := "debug" }

theorem check_empty : check {} = .ok () :=
  check_of_default rfl rfl (by rw [fold_eq_ofList]; decide)

theorem check_verbose : verbose.check = .ok () :=
  check_of_default rfl rfl (by rw [fold_eq_ofList]; decide)

theorem fileName_parts : fileName.parts = ["config.toml"] := by
  decide

theorem override_empty (s : Settings) : s.override {} = s :=
  rfl

theorem Layers.readGlobal_of_homeless {l : Layers} (fresh : l.remembered = none)
    (homeless : l.globalPath = none) : (l.readGlobal t current).1 = .ok none := by
  rw [readGlobal, fresh, homeless]

theorem Layers.readGlobal_of_path {l : Layers} (fresh : l.remembered = none)
    (path : l.globalPath = some p) : (l.readGlobal t current).1 = readFile? t current p := by
  simp only [readGlobal, fresh, path]
  cases readFile? t current p <;> rfl

/-- What is loaded depends on the layers alone. -/
theorem Layers.load_fst (l : Layers) (t : FileTree) (current : Location) (workspace : Path)
    (o : Overrides) :
    (l.load t current workspace o).1 = do
      let found ← (l.readGlobal t current).1
      let inWorkspace ← readLocal t current workspace
      let asked ← l.readExplicit t current
      let s := (stack [found, inWorkspace, asked]).override o
      s.check
      return s := by
  simp only [load, readGlobal]
  cases l.remembered with
  | none =>
      cases l.globalPath with
      | none => rfl
      | some p =>
          dsimp only
          cases readFile? t current p <;> rfl
  | some s => rfl

/-- Layers that can be read are loaded unless what they make up cannot be used. -/
theorem Layers.load_of_reads {l : Layers} {workspace : Path} {global own asked : Option Settings}
    (globally : (l.readGlobal t current).1 = .ok global)
    (locally : readFile? t current (localPath workspace) = .ok own)
    (explicitly : l.readExplicit t current = .ok asked) (o : Overrides) :
    (l.load t current workspace o).1 =
      (((stack [global, own, asked]).override o).check).map
        fun _ => (stack [global, own, asked]).override o := by
  rw [load_fst, globally, readLocal, locally, explicitly]
  simp only [bind, Except.bind, Except.map, pure, Except.pure]

/-- A global file and one of a workspace that hold settings are loaded, if what these make up can be
    used. -/
theorem Layers.load_of_stat {l : Layers} {workspace : Path} {place place' : Location}
    {global own : Settings} (fresh : l.remembered = none) (noFile : l.explicit = none)
    (path : l.globalPath = some p)
    (globally : t.stat current p = .ok (place, .file (.text global.render)))
    (locally : t.stat current (localPath workspace) = .ok (place', .file (.text own.render)))
    (usable : (stack [some global, some own, none]).check = .ok ()) :
    (l.load t current workspace {}).1 = .ok (stack [some global, some own, none]) := by
  have globally := (readGlobal_of_path fresh path).trans (readFile?_of_stat globally)
  have explicitly : l.readExplicit t current = .ok none := by rw [readExplicit, noFile]
  rw [load_of_reads globally (readFile?_of_stat locally) explicitly, override_empty, usable]
  rfl

end Registry.Settings
