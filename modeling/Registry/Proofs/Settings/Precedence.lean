import Registry.Proofs.Settings.Files

/-! # Which settings prevail

A value that is given for the run prevails, then the one in the last file that sets the key to
anything but its default, then the default. A file that sets a key to its default leaves the files
before it in force.
-/

namespace Registry.Settings

/-- The text of the default of a key; for a path, also another one for the same path. -/
def Key.isDefault (k : Key) (value : String) : Bool :=
  match k with
  | .dataDir => Path.same ⟨value⟩ ({} : Storage).dataDir
  | .database => Path.same ⟨value⟩ ({} : Storage).database
  | k => Settings.value? {} k == some value

/-- The value of a key, if it is not the default. -/
def covering? (s : Settings) (k : Key) : Option String :=
  (s.value? k).filter (!k.isDefault ·)

/-- What a file sets a key to, if it is not the default. -/
def Draft.covering? (d : Draft) (k : Key) : Option String :=
  (d.value? k).filter (!k.isDefault ·)

theorem some_choosePath (default lower upper : Path) :
    some (choosePath default lower upper).text =
      ((some upper.text).filter (!Path.same ⟨·⟩ default) <|> some lower.text) := by
  rw [choosePath]
  cases same : upper.same default with
  | true => simp [Option.filter, same]
  | false => simp [Option.filter, same]

theorem some_choose (default lower upper : String) :
    some (choose default lower upper) =
      ((some upper).filter (!some default == some ·) <|> some lower) := by
  rw [choose]
  by_cases same : default = upper
  · simp [Option.filter, same]
  · simp [Option.filter, same, Ne.symm same]

theorem some_chooseFormat (default lower upper : LogFormat) :
    some (choose default lower upper).name =
      ((some upper.name).filter (!some default.name == some ·) <|> some lower.name) := by
  cases default <;> cases upper <;> rfl

/-- The upper value covers the lower one, if it is not the default. -/
theorem value?_overlay (lower upper : Settings) (k : Key) :
    (overlay lower upper).value? k = (upper.covering? k <|> lower.value? k) := by
  cases k with
  | dataDir | database => exact some_choosePath _ _ _
  | format => exact some_chooseFormat _ _ _
  | file =>
      cases covers : upper.logging.file <;>
        simp [value?, overlay, Logging.overlay, covering?, covers, Key.isDefault, Option.filter]
  | _ => exact some_choose _ _ _

/-- Of layers, the last one that covers a key prevails. -/
theorem Layers.value?_stack (layers : List (Option Settings)) (k : Key) :
    (stack layers).value? k =
      (layers.reverse.findSome? (·.bind (·.covering? k)) <|> Settings.value? {} k) := by
  rw [stack]
  generalize ({} : Settings) = lower
  induction layers generalizing lower with
  | nil => simp
  | cons layer rest ih =>
      rw [List.reverse_cons, List.findSome?_append]
      cases layer with
      | none => simpa using ih lower
      | some upper => simpa [value?_overlay, Option.or_assoc] using ih (overlay lower upper)

/-! ## Files -/

theorem mem_of_mapM {α β : Type} {f : α → Option β} {l : List α} :
    ∀ {found : List β}, l.mapM f = some found → ∀ b ∈ found, ∃ a ∈ l, f a = some b := by
  induction l with
  | nil =>
      intro found read
      obtain rfl := by simpa using read
      simp
  | cons a rest ih =>
      intro found read
      rw [List.mapM_cons] at read
      obtain ⟨first, head, others, tail, rfl⟩ := by simpa [Option.bind_eq_some_iff] using read
      refine List.forall_mem_cons.2 ⟨⟨a, List.mem_cons_self, head⟩, fun b member => ?_⟩
      obtain ⟨a, listed, read⟩ := ih tail b member
      exact ⟨a, List.mem_cons_of_mem _ listed, read⟩

theorem Draft.name_of_formatName? {item : Toml.Item} {value : String}
    (read : formatName? item = some value) : ∃ format : LogFormat, value = format.name := by
  have known {name : String} (read : (LogFormat.ofName? name).map LogFormat.name = some value) :
      ∃ format : LogFormat, value = format.name := by
    obtain ⟨format, -, rfl⟩ := Option.map_eq_some_iff.1 read
    exact ⟨format, rfl⟩
  rw [formatName?.eq_def] at read
  split at read
  · exact known read
  · split at read
    · exact known read
    · contradiction
  · contradiction

theorem Draft.readItem?_of_readKey? {root : Toml.Entries} {k other : Key} {value : String}
    (read : readKey? root k = some (some (other, value))) :
    other = k ∧ ∃ item, readItem? k item = some value := by
  rw [readKey?] at read
  split at read
  · simp at read
  · obtain ⟨offered, -, taken⟩ := Option.bind_eq_some_iff.1 read
    cases offered with
    | none => simp at taken
    | some item =>
        obtain ⟨text, held, same⟩ := Option.bind_eq_some_iff.1 taken
        obtain ⟨rfl, rfl⟩ := by simpa using same
        exact ⟨rfl, item, held⟩

/-- The format that is set, if one is, is a known one. -/
def Draft.NamesFormat (d : Draft) : Prop :=
  ∀ value, d.value? .format = some value → ∃ format : LogFormat, value = format.name

theorem Draft.namesFormat_of_parse? {text : String} {d : Draft}
    (read : Draft.parse? text = some d) : d.NamesFormat := by
  intro value set
  obtain ⟨root, -, made⟩ := Option.bind_eq_some_iff.1 read
  obtain ⟨found, keys, same⟩ := Option.bind_eq_some_iff.1 made
  obtain rfl := Option.some.inj same
  have listed : (.format, value) ∈ found.filterMap id := by
    obtain ⟨before, after, split, -⟩ := List.lookup_eq_some_iff.1 set
    rw [show found.filterMap id = _ from split]
    exact List.mem_append_right before List.mem_cons_self
  obtain ⟨entry, member, rfl⟩ := List.mem_filterMap.1 listed
  obtain ⟨k, -, held⟩ := mem_of_mapM keys _ member
  obtain ⟨rfl, item, named⟩ := readItem?_of_readKey? held
  exact name_of_formatName? named

theorem covering?_default (k : Key) : covering? {} k = none := by
  cases k <;> decide

theorem some_getD (set : Option String) (default : String) :
    some (set.getD default) = (set <|> some default) := by
  cases set <;> rfl

/-- Settings are what a file sets, and the defaults. -/
theorem Draft.value?_complete {d : Draft} (format : d.NamesFormat) (k : Key) :
    d.complete.value? k = (d.value? k <|> Settings.value? {} k) := by
  cases k with
  | format =>
      cases set : d.value? .format with
      | none => simp [complete, Settings.value?, set]
      | some value =>
          obtain ⟨format, rfl⟩ := format value set
          simp [complete, Settings.value?, set, LogFormat.ofName?_name]
  | file => cases set : d.value? .file <;> simp [complete, Settings.value?, set]
  | _ => exact some_getD _ _

theorem Draft.covering?_complete {d : Draft} (format : d.NamesFormat) (k : Key) :
    d.complete.covering? k = d.covering? k := by
  rw [Settings.covering?, value?_complete format, covering?]
  cases d.value? k with
  | none => exact covering?_default k
  | some value => rfl

/-- The text of a value that is given for the run. -/
def Overrides.value? (o : Overrides) : Key → Option String
  | .dataDir => o.dataDir.map (·.text)
  | .database => o.database.map (·.text)
  | .level => o.level
  | .format => o.format.map LogFormat.name
  | _ => none

theorem value?_override (s : Settings) (o : Overrides) (k : Key) :
    (s.override o).value? k = (o.value? k <|> s.value? k) := by
  obtain ⟨dataDir, database, level, format⟩ := o
  cases k with
  | dataDir => cases dataDir <;> rfl
  | database => cases database <;> rfl
  | level => cases level <;> rfl
  | format => cases format <;> rfl
  | _ => rfl

/-! ## Layers -/

open FileTree

variable {t : FileTree} {current : Location} {workspace p : Path} {l : Layers} {o : Overrides}
  {s : Settings}

/-- What the file at a path sets, if there is a file that can be read. -/
def draft? (t : FileTree) (current : Location) (p : Path) : Option Draft :=
  (t.readText current p).toOption.bind Draft.parse?

theorem Draft.namesFormat_of_draft? {d : Draft} (found : draft? t current p = some d) :
    d.NamesFormat := by
  obtain ⟨text, -, read⟩ := Option.bind_eq_some_iff.1 found
  exact namesFormat_of_parse? read

/-- Settings that could be read are what their file sets, with the defaults filled in. -/
theorem draft?_of_readFile (read : readFile t current p = .ok s) :
    ∃ d, draft? t current p = some d ∧ d.complete = s := by
  rw [readFile] at read
  cases found : t.readText current p with
  | error e => simp [found] at read
  | ok text =>
      cases parsed : parse? text with
      | none => simp [found, parsed] at read
      | some settings =>
          obtain rfl : settings = s := by simpa [found, parsed] using read
          obtain ⟨d, read, same⟩ := Option.map_eq_some_iff.1 parsed
          exact ⟨d, by simp [draft?, found, Except.toOption, read], same⟩

theorem draft?_of_stat {place : Location}
    (found : t.stat current p = .ok (place, .file (.text s.render))) :
    draft? t current p = some s.draft := by
  rw [draft?, readText_of_stat found, Except.toOption, Option.bind_some, Draft.parse?_render]

theorem draft?_of_missing (missing : t.contains current p = false) : draft? t current p = none := by
  have absent : ∃ e, t.stat current p = .error e := by
    cases found : t.stat current p with
    | error e => exact ⟨e, rfl⟩
    | ok found' => simp [contains_iff.2 ⟨_, found⟩] at missing
  obtain ⟨e, absent⟩ := absent
  simp [draft?, readText, absent, bind, Except.bind, Except.toOption]

/-- A layer that could be read is what its file sets, if there is one. -/
theorem draft?_of_readFile? {layer : Option Settings} (read : readFile? t current p = .ok layer) :
    layer = (draft? t current p).map Draft.complete ∧
      (t.contains current p = true → (draft? t current p).isSome = true) := by
  cases there : t.contains current p with
  | false =>
      rw [readFile?_eq_none there] at read
      rw [draft?_of_missing there]
      exact ⟨(Except.ok.inj read).symm, nofun⟩
  | true =>
      rw [readFile?, if_pos there] at read
      cases held : readFile t current p with
      | error e => simp [held] at read
      | ok s =>
          obtain ⟨d, found, rfl⟩ := draft?_of_readFile held
          obtain rfl : some d.complete = layer := by simpa [held] using read
          exact ⟨by simp [found], fun _ => by simp [found]⟩

namespace Layers

/-- What covers a key in the global layer: the settings that are remembered of it or else its
    file. -/
def coveringGlobal? (t : FileTree) (current : Location) (l : Layers) (k : Key) : Option String :=
  match l.remembered with
  | some s => s.covering? k
  | none => (l.globalPath.bind (draft? t current)).bind (·.covering? k)

/-- What covers a key in the file of a workspace. -/
def coveringLocal? (t : FileTree) (current : Location) (workspace : Path) (k : Key) :
    Option String :=
  (draft? t current (localPath workspace)).bind (·.covering? k)

/-- What covers a key in the file that was asked for. -/
def coveringExplicit? (t : FileTree) (current : Location) (l : Layers) (k : Key) : Option String :=
  (l.explicit.bind (draft? t current)).bind (·.covering? k)

theorem bind_covering?_map (p : Path) (k : Key) :
    ((draft? t current p).map Draft.complete).bind (·.covering? k) =
      (draft? t current p).bind (·.covering? k) := by
  cases found : draft? t current p with
  | none => rfl
  | some d => exact Draft.covering?_complete (Draft.namesFormat_of_draft? found) k

theorem coveringGlobal?_of_read {global : Option Settings}
    (read : (l.readGlobal t current).1 = .ok global) (k : Key) :
    global.bind (·.covering? k) = l.coveringGlobal? t current k := by
  cases remembered : l.remembered with
  | some s =>
      rw [readGlobal, remembered] at read
      obtain rfl := Except.ok.inj read
      rw [coveringGlobal?, remembered, Option.bind_some]
  | none =>
      rw [coveringGlobal?, remembered]
      cases path : l.globalPath with
      | none =>
          rw [readGlobal_of_homeless remembered path] at read
          obtain rfl := Except.ok.inj read
          rfl
      | some p =>
          rw [readGlobal_of_path remembered path] at read
          rw [(draft?_of_readFile? read).1, bind_covering?_map, Option.bind_some]

theorem coveringExplicit?_of_read {asked : Option Settings}
    (read : l.readExplicit t current = .ok asked) (k : Key) :
    asked.bind (·.covering? k) = l.coveringExplicit? t current k := by
  rw [coveringExplicit?]
  cases explicit : l.explicit with
  | none =>
      rw [readExplicit, explicit] at read
      obtain rfl := Except.ok.inj read
      rfl
  | some p =>
      rw [readExplicit, explicit] at read
      cases there : t.contains current p with
      | false => simp [there] at read
      | true =>
          have held : readFile? t current p = .ok asked := by simpa [readFile?, there] using read
          rw [(draft?_of_readFile? held).1, bind_covering?_map, Option.bind_some]

/-- Settings that were loaded are made of layers that could be read. -/
theorem load_eq_ok (loaded : (l.load t current workspace o).1 = .ok s) :
    ∃ global own asked, (l.readGlobal t current).1 = .ok global ∧
      readFile? t current (localPath workspace) = .ok own ∧
      l.readExplicit t current = .ok asked ∧ s = (stack [global, own, asked]).override o := by
  cases globally : (l.readGlobal t current).1 with
  | error e => simp [load_fst, globally, bind, Except.bind] at loaded
  | ok global =>
      cases locally : readFile? t current (localPath workspace) with
      | error e => simp [load_fst, globally, readLocal, locally, bind, Except.bind] at loaded
      | ok own =>
          cases explicitly : l.readExplicit t current with
          | error e =>
              simp [load_fst, globally, readLocal, locally, explicitly, bind, Except.bind] at loaded
          | ok asked =>
              rw [load_of_reads globally locally explicitly] at loaded
              refine ⟨global, own, asked, rfl, rfl, rfl, ?_⟩
              cases checked : ((stack [global, own, asked]).override o).check with
              | error e => simp [checked, Except.map] at loaded
              | ok _ => simpa [checked, Except.map, eq_comm] using loaded

/-- Of every key, the settings that are loaded have the value that is given for the run, else the
    one in the last file that sets the key to something other than its default, else the
    default. -/
theorem load_value? (loaded : (l.load t current workspace o).1 = .ok s) (k : Key) :
    s.value? k =
      (o.value? k <|> l.coveringExplicit? t current k <|> coveringLocal? t current workspace k <|>
        l.coveringGlobal? t current k <|> Settings.value? {} k) := by
  obtain ⟨global, own, asked, globally, locally, explicitly, rfl⟩ := load_eq_ok loaded
  have local' : own.bind (·.covering? k) = coveringLocal? t current workspace k := by
    rw [(draft?_of_readFile? locally).1, bind_covering?_map, coveringLocal?]
  have last : [asked, own, global].findSome? (·.bind (·.covering? k)) =
      (asked.bind (·.covering? k) <|> own.bind (·.covering? k) <|>
        global.bind (·.covering? k)) := by
    simp only [List.findSome?]
    cases asked.bind (·.covering? k) <;> cases own.bind (·.covering? k) <;>
      cases global.bind (·.covering? k) <;> rfl
  rw [value?_override, value?_stack, ← local', ← coveringGlobal?_of_read globally,
    ← coveringExplicit?_of_read explicitly]
  simp [last, Option.or_assoc]

/-- A home and a workspace with settings of their own, those of the workspace all defaults. -/
def bothFiles : FileTree where
  entries := [(["h"], .directory), (["config.toml", "h"], .file (.text verbose.render)),
    (["w"], .directory), ([".scopegraph", "w"], .directory),
    (["config.toml", ".scopegraph", "w"], .file (.text (render {})))]

theorem load_bothFiles :
    (Layers.load bothFiles [] ⟨"/w"⟩ {} ⟨some ⟨"/h"⟩, none, none⟩).1 = .ok verbose := by
  have stacked : stack [some verbose, some {}, none] = verbose := by decide
  rw [← stacked]
  exact load_of_stat rfl rfl rfl rfl rfl (stacked ▸ check_verbose)

theorem load_value?_bothFiles :
    (Layers.load bothFiles [] ⟨"/w"⟩ {} ⟨some ⟨"/h"⟩, none, none⟩).1 = .ok verbose ∧
      verbose.value? .level =
        (Overrides.value? {} .level <|>
          coveringExplicit? bothFiles [] ⟨some ⟨"/h"⟩, none, none⟩ .level <|>
          coveringLocal? bothFiles [] ⟨"/w"⟩ .level <|>
          coveringGlobal? bothFiles [] ⟨some ⟨"/h"⟩, none, none⟩ .level <|>
          Settings.value? {} .level) :=
  ⟨load_bothFiles, load_value? load_bothFiles .level⟩

/-- A value that the last file sets does not prevail if it is the default. -/
theorem load_value?_default :
    ¬ ∀ (t : FileTree) (current : Location) (workspace : Path) (l : Layers) (o : Overrides)
      (s : Settings), l.remembered = none → (l.load t current workspace o).1 = .ok s →
      ∀ k, s.value? k =
        (o.value? k <|> (l.explicit.bind (draft? t current)).bind (·.value? k) <|>
          (draft? t current (localPath workspace)).bind (·.value? k) <|>
          (l.globalPath.bind (draft? t current)).bind (·.value? k) <|> Settings.value? {} k) := by
  intro prevails
  have level := prevails bothFiles [] ⟨"/w"⟩ ⟨some ⟨"/h"⟩, none, none⟩ {} verbose rfl load_bothFiles
    .level
  have own : draft? bothFiles [] (localPath ⟨"/w"⟩) = some (draft {}) := draft?_of_stat rfl
  rw [own, Option.bind_some, value?_draft] at level
  exact absurd level (by decide)

end Layers

end Registry.Settings
