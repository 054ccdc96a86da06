import Mathlib.Data.List.Perm.Basic
import Registry.Proofs.Settings.Precedence
import Registry.Settings.Sources

/-! # Where settings are said to stem from

The list of the values in force is made by comparing trees of values, without regard to how the
settings were laid over each other. All the same it tells which file a value was taken from, and it
calls overrides only values that came from neither of the two files.
-/

namespace Registry

namespace Json

mutual

/-- The values within a value that have no members, each behind the names that lead to it. -/
def leaves : Json → List (List String × Json)
  | .object members => leavesOf members
  | value => [([], value)]

def leavesOf : List (Option String × Json) → List (List String × Json)
  | [] => []
  | (some name, value) :: rest =>
      (leaves value).map (fun leaf => (name :: leaf.1, leaf.2)) ++ leavesOf rest
  | (none, _) :: rest => leavesOf rest

end

theorem leaves_obj (members : List (String × Json)) :
    (obj members).leaves =
      members.flatMap fun m => m.2.leaves.map fun leaf => (m.1 :: leaf.1, leaf.2) := by
  rw [obj, leaves]
  induction members with
  | nil => rfl
  | cons m rest ih => rw [List.map_cons, leavesOf, ih, List.flatMap_cons]

theorem member_obj (members : List (String × Json)) (name : String) :
    (obj members).member name = (members.lookup name).getD .null := by
  rw [obj, member]
  congr 1
  induction members with
  | nil => rfl
  | cons m rest ih =>
      rw [List.map_cons, List.lookup_cons, List.lookup_cons, Option.some_beq_some, ih]

theorem leaves_orNull (value : Option String) :
    (orNull str value).leaves = [([], orNull str value)] := by
  cases value <;> rfl

theorem orNull_str_inj {a b : Option String} : orNull str a = orNull str b ↔ a = b := by
  cases a <;> cases b <;> simp [orNull, str]

end Json

namespace Settings

open Json

mutual

/-- A value is gone through leaf by leaf, and each leaf is compared with what stands in the same
    place in the other trees. -/
theorem flatten_eq (key : String) (lower : Lower) (value : Json) :
    flatten key lower value = value.leaves.map fun leaf =>
      ⟨leaf.1.foldl under key, leaf.2, (leaf.1.foldl Lower.member lower).source leaf.2⟩ := by
  cases value with
  | object members => exact flattenMembers_eq key lower members
  | null | bool | number | string | array => rfl

theorem flattenMembers_eq (key : String) (lower : Lower) (members : List (Option String × Json)) :
    flattenMembers key lower members = (leavesOf members).map fun leaf =>
      ⟨leaf.1.foldl under key, leaf.2, (leaf.1.foldl Lower.member lower).source leaf.2⟩ := by
  cases members with
  | nil => rfl
  | cons m rest =>
      obtain ⟨name, value⟩ := m
      cases name with
      | none => exact flattenMembers_eq key lower rest
      | some name =>
          rw [flattenMembers, flatten_eq (under key name) (lower.member name) value,
            flattenMembers_eq key lower rest, leavesOf, List.map_append, List.map_map]
          rfl

end

section SortedObject

variable {members : List (String × Json)}

theorem leaves_sortedObject (once : (members.map (·.1)).Nodup) :
    (sortedObject members).leaves.Perm
      (members.flatMap fun m => m.2.leaves.map fun leaf => (m.1 :: leaf.1, leaf.2)) := by
  rw [sortedObject, leaves_obj]
  exact (TextMap.entries_ofList_perm once).flatMap_right _

theorem member_sortedObject (once : (members.map (·.1)).Nodup) {m : String × Json}
    (listed : m ∈ members) : (sortedObject members).member m.1 = m.2 := by
  have found := TextMap.get?_ofList_of_mem once listed
  rw [TextMap.get?] at found
  rw [sortedObject, member_obj, found, Option.getD_some]

end SortedObject

theorem mem_all_group (g : Group) : g ∈ Group.all := by
  cases g <;> decide

theorem group_of_mem_keys {g : Group} {k : Key} : k ∈ g.keys → k.group = g := by
  cases g <;> cases k <;> decide

theorem nodup_members (s : Settings) (g : Group) : ((s.members g).map (·.1)).Nodup := by
  rw [members, List.map_map]
  exact nodup_fields g

theorem nodup_groups (f : Group → Json) :
    ((Group.all.map fun g => (g.name, f g)).map (·.1)).Nodup := by
  rw [List.map_map]
  exact nodup_names

theorem member_tree (s : Settings) (k : Key) :
    (s.tree.member k.group.name).member k.field = .orNull .str (s.value? k) := by
  have group : s.tree.member k.group.name = sortedObject (s.members k.group) :=
    member_sortedObject (nodup_groups _) (List.mem_map_of_mem (mem_all_group k.group))
  rw [group]
  exact member_sortedObject (s.nodup_members k.group) (List.mem_map_of_mem (mem_keys_group k))

theorem leaves_group (s : Settings) (g : Group) :
    (sortedObject (s.members g)).leaves.Perm
      (g.keys.map fun k => ([k.field], .orNull .str (s.value? k))) := by
  refine (leaves_sortedObject (s.nodup_members g)).trans (.of_eq ?_)
  rw [members, List.flatMap_map, List.map_eq_flatMap]
  simp only [leaves_orNull, List.map_cons, List.map_nil]

theorem leaves_tree (s : Settings) :
    s.tree.leaves.Perm
      (Key.all.map fun k => ([k.group.name, k.field], .orNull .str (s.value? k))) := by
  refine (leaves_sortedObject (nodup_groups _)).trans ?_
  rw [List.flatMap_map, Key.all, List.map_flatMap]
  refine List.Perm.flatMap_left _ fun g _ => ?_
  refine ((s.leaves_group g).map _).trans (.of_eq ?_)
  rw [List.map_map]
  exact List.map_congr_left fun k member => by
    simp only [Function.comp_apply, group_of_mem_keys member]

variable {globalFile localFile effective : Settings} {k : Key}

/-- What is said of where the value of a key stems from. -/
def Key.source (k : Key) (globalFile localFile effective : Settings) : ValueSource :=
  if effective.value? k = value? {} k then .default
  else if effective.value? k = localFile.value? k ∧ localFile.value? k ≠ value? {} k then .localFile
  else if effective.value? k = globalFile.value? k ∧ globalFile.value? k ≠ value? {} k then
    .globalFile
  else .override

theorem under_under (k : Key) : under (under "" k.group.name) k.field = k.name := by
  cases k <;> rfl

theorem sourced_perm (globalFile localFile effective : Settings) :
    (sourced globalFile localFile effective).Perm
      (Key.all.map fun k => ⟨k.name, .orNull .str (effective.value? k),
        k.source globalFile localFile effective⟩) := by
  rw [sourced, flatten_eq]
  refine ((leaves_tree effective).map _).trans (.of_eq ?_)
  rw [List.map_map]
  refine List.map_congr_left fun k _ => ?_
  simp only [Function.comp_apply, List.foldl_cons, List.foldl_nil, under_under, Lower.member,
    Lower.source, member_tree, ne_eq, orNull_str_inj, Key.source]

theorem nodup_keyNames : (Key.all.map Key.name).Nodup := by
  decide

theorem ne_default_of_covering? {s : Settings} {value : String}
    (covers : s.covering? k = some value) :
    s.value? k = some value ∧ some value ≠ value? {} k := by
  obtain ⟨has, kept⟩ := Option.filter_eq_some_iff.1 covers
  refine ⟨has, fun same => ?_⟩
  have default := covering?_default k
  rw [covering?, ← same, Option.filter_some, if_pos kept] at default
  contradiction

/-- Settings with the same value for a key cover it alike. -/
theorem covering?_congr {s s' : Settings} (same : s.value? k = s'.value? k) :
    s.covering? k = s'.covering? k := by
  rw [covering?, covering?, same]

/-- What was taken from files is said to stem from the upper one that covers the key. -/
theorem source_of_files (taken : effective.value? k =
      (localFile.covering? k <|> globalFile.covering? k <|> value? {} k)) :
    k.source globalFile localFile effective =
      if (localFile.covering? k).isSome then .localFile
      else if (globalFile.covering? k).isSome then .globalFile
      else .default := by
  cases own : localFile.covering? k with
  | some value =>
      obtain ⟨has, notDefault⟩ := ne_default_of_covering? own
      have value? : effective.value? k = some value := by simp [taken, own]
      simp [Key.source, value?, has, notDefault]
  | none =>
      cases shared : globalFile.covering? k with
      | some value =>
          obtain ⟨has, notDefault⟩ := ne_default_of_covering? shared
          have value? : effective.value? k = some value := by simp [taken, own, shared]
          have notOwn : some value ≠ localFile.value? k := fun same => by
            rw [covering?_congr (has.trans same), own] at shared
            contradiction
          simp [Key.source, value?, has, notDefault, notOwn]
      | none =>
          have value? : effective.value? k = Settings.value? {} k := by simp [taken, own, shared]
          simp [Key.source, value?]

/-- An override is told by its value, which neither of the files nor the defaults have. -/
theorem source_eq_override_iff : k.source globalFile localFile effective = .override ↔
    effective.value? k ≠ value? {} k ∧ effective.value? k ≠ localFile.value? k ∧
      effective.value? k ≠ globalFile.value? k := by
  by_cases fallback : effective.value? k = value? {} k
  · simp [Key.source, fallback]
  by_cases own : effective.value? k = localFile.value? k
  · simp [Key.source, ← own, fallback]
  by_cases shared : effective.value? k = globalFile.value? k
  · simp [Key.source, ← shared, fallback, own]
  · simp [Key.source, fallback, own, shared]

/-! ## Settings that were loaded -/

/-- The values within the settings are listed under their keys, each of them once. -/
structure Lists (rows : List Sourced) (s : Settings) : Prop where
  leaves : (rows.map fun row => (row.key, row.value)) =
    s.tree.leaves.map fun leaf => (leaf.1.foldl under "", leaf.2)
  once : (rows.map (·.key)).Nodup
  values : (rows.map fun row => (row.key, row.value)).Perm
    (Key.all.map fun k => (k.name, .orNull .str (s.value? k)))

theorem lists_sourced (globalFile localFile effective : Settings) :
    Lists (sourced globalFile localFile effective) effective where
  leaves := by
    rw [sourced, flatten_eq, List.map_map]
    rfl
  once := by
    have keys := (sourced_perm globalFile localFile effective).map (·.key)
    rw [List.map_map] at keys
    exact keys.nodup_iff.2 nodup_keyNames
  values := by
    have rows := (sourced_perm globalFile localFile effective).map fun row => (row.key, row.value)
    rwa [List.map_map] at rows

open FileTree

variable {t : FileTree} {current : Location} {workspace : Path} {l : Layers} {o : Overrides}
  {s : Settings} {global own asked : Option Settings}

theorem covering?_getD (layer : Option Settings) (k : Key) :
    (layer.getD {}).covering? k = layer.bind (·.covering? k) := by
  cases layer with
  | none => exact covering?_default k
  | some s => rfl

namespace Layers

theorem value?_layered (global own asked : Option Settings) (o : Overrides) (k : Key) :
    ((stack [global, own, asked]).override o).value? k =
      ((o.value? k <|> asked.bind (·.covering? k)) <|> (own.getD {}).covering? k <|>
        (global.getD {}).covering? k <|> Settings.value? {} k) := by
  rw [value?_override, value?_stack, covering?_getD, covering?_getD]
  simp only [List.reverse_cons, List.reverse_nil, List.nil_append, List.cons_append,
    List.findSome?]
  cases o.value? k <;> cases asked.bind (·.covering? k) <;> cases own.bind (·.covering? k) <;>
    cases global.bind (·.covering? k) <;> rfl

/-- The file that the value of a key is from while there are only files: the upper one that sets the
    key to something other than its default. -/
def fileSource (t : FileTree) (current : Location) (workspace : Path) (l : Layers) (k : Key) :
    ValueSource :=
  if (coveringLocal? t current workspace k).isSome then .localFile
  else if (l.coveringGlobal? t current k).isSome then .globalFile
  else .default

theorem source_eq_fileSource (globally : (l.readGlobal t current).1 = .ok global)
    (locally : readLocal t current workspace = .ok own) (k : Key) :
    k.source (global.getD {}) (own.getD {}) ((stack [global, own, none]).override {}) =
      l.fileSource t current workspace k := by
  have coversLocal : (own.getD {}).covering? k = coveringLocal? t current workspace k := by
    rw [covering?_getD, (draft?_of_readFile? locally).1, bind_covering?_map, coveringLocal?]
  have coversGlobal : (global.getD {}).covering? k = l.coveringGlobal? t current k := by
    rw [covering?_getD, coveringGlobal?_of_read globally]
  rw [fileSource, ← coversLocal, ← coversGlobal]
  apply source_of_files
  rw [value?_layered]
  cases k <;> rfl

/-- What is called an override was given for the run or set by the file that was asked for. -/
theorem given_of_override (label : k.source (global.getD {}) (own.getD {})
      ((stack [global, own, asked]).override o) = .override) :
    ∃ value, ((stack [global, own, asked]).override o).value? k = some value ∧
      (o.value? k <|> asked.bind (·.covering? k)) = some value := by
  obtain ⟨notDefault, notOwn, notGlobal⟩ := source_eq_override_iff.1 label
  rw [value?_layered] at notDefault notOwn notGlobal ⊢
  cases given : (o.value? k <|> asked.bind (·.covering? k)) with
  | some value => exact ⟨value, rfl, rfl⟩
  | none =>
      -- The value would be that of one of the files, or the default.
      rw [given] at notDefault notOwn notGlobal
      cases covers : (own.getD {}).covering? k with
      | some value =>
          rw [covers, (ne_default_of_covering? covers).1] at notOwn
          exact absurd rfl notOwn
      | none =>
          rw [covers] at notDefault notGlobal
          cases covers' : (global.getD {}).covering? k with
          | some value =>
              rw [covers', (ne_default_of_covering? covers').1] at notGlobal
              exact absurd rfl notGlobal
          | none =>
              rw [covers'] at notDefault
              exact absurd rfl notDefault

/-- What the list of the values in force says of settings that were loaded. -/
structure Attributed (t : FileTree) (current : Location) (workspace : Path) (l : Layers)
    (o : Overrides) (s : Settings) (global own : Option Settings) (rows : List Sourced) : Prop where
  lists : Lists rows s
  /-- Without a file that was asked for and without values for the run, each value is said to stem
      from the file it is from. -/
  fromFiles : l.explicit = none → o = {} → rows.Perm (Key.all.map fun k =>
    ⟨k.name, .orNull .str (s.value? k), l.fileSource t current workspace k⟩)
  /-- What is called an override is the value of neither file nor the default, and was given for the
      run or set by the file that was asked for. -/
  overrides : ∀ row ∈ rows, row.source = .override → ∃ k : Key, ∃ value,
    row.key = k.name ∧ row.value = .str value ∧
    some value ≠ Settings.value? {} k ∧ some value ≠ (own.getD {}).value? k ∧
    some value ≠ (global.getD {}).value? k ∧
    (o.value? k <|> l.coveringExplicit? t current k) = some value

/-- Settings that were loaded can be listed, and the list tells where they are from. -/
theorem sourced_attributed (loaded : (l.load t current workspace o).1 = .ok s) :
    ∃ global own rows, (l.readGlobal t current).1 = .ok global ∧
      readLocal t current workspace = .ok own ∧
      l.sourced t current workspace s = .ok rows ∧
      Attributed t current workspace l o s global own rows := by
  obtain ⟨global, own, asked, globally, locally, explicitly, rfl⟩ := load_eq_ok loaded
  refine ⟨global, own, Settings.sourced (global.getD {}) (own.getD {}) _, globally, locally, ?_,
    lists_sourced _ _ _, ?_, ?_⟩
  · rw [Layers.sourced, globally, readLocal, locally]
    rfl
  · rintro noFile rfl
    obtain rfl : asked = none := by
      rw [readExplicit, noFile] at explicitly
      exact (Except.ok.inj explicitly).symm
    have rows := sourced_perm (global.getD {}) (own.getD {})
      ((stack [global, own, none]).override {})
    simpa only [source_eq_fileSource globally locally] using rows
  · intro row listed label
    obtain ⟨k, -, rfl⟩ := List.mem_map.1 ((sourced_perm _ _ _).mem_iff.1 listed)
    obtain ⟨notDefault, notOwn, notGlobal⟩ := source_eq_override_iff.1 label
    obtain ⟨value, has, given⟩ := given_of_override label
    rw [has] at notDefault notOwn notGlobal
    refine ⟨k, value, rfl, ?_, notDefault, notOwn, notGlobal, ?_⟩
    · rw [has]
      rfl
    · rw [← coveringExplicit?_of_read explicitly]
      exact given

/-- Settings at home that log more, and to a file. -/
def atHome : Settings where
  logging := { level := "debug", file := some ⟨"/log"⟩ }

/-- Settings of a workspace that log less. The database is the default one, written in another
    way. -/
def inWorkspace : Settings where
  storage := { database := ⟨"store.db/"⟩ }
  logging := { level := "warn" }

/-- A home and a workspace with these settings. -/
def twoFiles : FileTree where
  entries := [(["h"], .directory), (["config.toml", "h"], .file (.text atHome.render)),
    (["w"], .directory), ([".scopegraph", "w"], .directory),
    (["config.toml", ".scopegraph", "w"], .file (.text inWorkspace.render))]

/-- What they come to: the level of the workspace, the log file of the home, the default
    database. -/
def bothLayers : Settings where
  logging := { level := "warn", file := some ⟨"/log"⟩ }

theorem load_twoFiles :
    (Layers.load twoFiles [] ⟨"/w"⟩ {} ⟨some ⟨"/h"⟩, none, none⟩).1 = .ok bothLayers := by
  have stacked : stack [some atHome, some inWorkspace, none] = bothLayers := by decide
  have usable : bothLayers.check = .ok () :=
    check_of_default rfl rfl (by rw [fold_eq_ofList]; decide)
  rw [← stacked]
  exact load_of_stat rfl rfl rfl rfl rfl (stacked ▸ usable)

theorem sourced_attributed_twoFiles :
    (Layers.load twoFiles [] ⟨"/w"⟩ {} ⟨some ⟨"/h"⟩, none, none⟩).1 = .ok bothLayers ∧
      ∃ global own rows,
        (Layers.readGlobal twoFiles [] ⟨some ⟨"/h"⟩, none, none⟩).1 = .ok global ∧
        readLocal twoFiles [] ⟨"/w"⟩ = .ok own ∧
        Layers.sourced twoFiles [] ⟨"/w"⟩ bothLayers ⟨some ⟨"/h"⟩, none, none⟩ = .ok rows ∧
        Attributed twoFiles [] ⟨"/w"⟩ ⟨some ⟨"/h"⟩, none, none⟩ {} bothLayers global own rows :=
  ⟨load_twoFiles, sourced_attributed load_twoFiles⟩

/-- Values are compared as they are listed: a path that is given for the run is called an override
    even where it is the default one, written in another way. -/
example :
    (Settings.sourced {} {} (override {} { database := some ⟨"store.db/"⟩ })).filter
        (·.source = .override) =
      [⟨"storage.database", .str "store.db/", .override⟩] ∧
    Path.same ⟨"store.db/"⟩ ({} : Storage).database = true := by
  decide

end Layers

end Settings
end Registry
