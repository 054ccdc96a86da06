import Registry.Proofs.Toml.Document
import Registry.Settings.Toml

/-! # Settings that read back

The text of settings is a document with a table for each group, and what it sets is every value that
the settings have.
-/

namespace Registry

theorem LogFormat.ofName?_name (format : LogFormat) : ofName? format.name = some format := by
  cases format <;> rfl

namespace Settings

section Named

variable {κ α β : Type} (name : κ → α) (value? : κ → Option β)

theorem names_filterMap (keys : List κ) :
    ((keys.filterMap fun k => (value? k).map (name k, ·)).map (·.1)).Sublist (keys.map name) := by
  induction keys with
  | nil => exact .slnil
  | cons k rest ih =>
      cases found : value? k with
      | none => simpa [found] using ih.cons _
      | some value => simpa [found] using ih

theorem lookup_filterMap [DecidableEq α] {keys : List κ} (once : (keys.map name).Nodup) {k : κ}
    (member : k ∈ keys) :
    (keys.filterMap fun k => (value? k).map (name k, ·)).lookup (name k) = value? k := by
  induction keys with
  | nil => contradiction
  | cons first rest ih =>
      obtain ⟨new, once⟩ := List.nodup_cons.1 once
      rcases List.mem_cons.1 member with rfl | member
      · cases found : value? k with
        | none =>
            rw [List.filterMap_cons_none (by simp [found]), List.lookup_eq_none_iff]
            intro e listed
            have other : e.1 ≠ name k := fun same =>
              new (same ▸ (names_filterMap name value? rest).subset (List.mem_map_of_mem listed))
            simpa using other.symm
        | some value =>
            rw [List.filterMap_cons_some (by simp [found]; rfl), TextMap.lookup_cons, if_pos rfl]
      · have other : name k ≠ name first := fun same => new (same ▸ List.mem_map_of_mem member)
        cases found : value? first with
        | none => rw [List.filterMap_cons_none (by simp [found]), ih once member]
        | some value =>
            rw [List.filterMap_cons_some (by simp [found]; rfl), TextMap.lookup_cons, if_neg other,
              ih once member]

end Named

/-- The table that a group is written as. -/
def table (s : Settings) (g : Group) : Toml.Table where
  name := g.name
  entries := g.keys.filterMap fun k => (s.value? k).map (k.field, ·)

theorem groupLines_eq_text (s : Settings) (g : Group) : groupLines s g = (s.table g).text := by
  simp only [groupLines, table, Toml.Table.text, Toml.Table.header, Toml.Table.lines, line]
  generalize g.keys = keys
  induction keys with
  | nil => simp
  | cons k rest ih =>
      cases found : s.value? k <;> simp_all

theorem isBare_name (g : Group) : Toml.Reader.IsBare g.name.toList := by
  cases g <;> exact Toml.Reader.isBare_of_all (by decide) (by decide)

theorem isBare_field (k : Key) : Toml.Reader.IsBare k.field.toList := by
  cases k <;> exact Toml.Reader.isBare_of_all (by decide) (by decide)

theorem nodup_names : (Group.all.map Group.name).Nodup := by
  decide

theorem nodup_fields (g : Group) : (g.keys.map Key.field).Nodup := by
  cases g <;> decide

theorem wellFormed_table (s : Settings) (g : Group) : (s.table g).WellFormed where
  name := isBare_name g
  keys e member := by
    obtain ⟨k, -, found⟩ := List.mem_filterMap.1 member
    obtain ⟨value, -, rfl⟩ := Option.map_eq_some_iff.1 found
    exact isBare_field k
  once := (names_filterMap ..).nodup (nodup_fields g)

/-- The document that settings are written as. -/
def document (s : Settings) : Toml.Entries :=
  Group.all.map fun g => (g.name, .table .header (s.table g).items)

theorem parse?_render_document (s : Settings) : Toml.parse? s.render = some s.document := by
  have read := Toml.parse?_tables (Group.all.map s.table)
    (by simpa using fun g _ => wellFormed_table s g)
    (by simpa [Function.comp_def, table] using nodup_names)
  rw [List.map_map, List.map_map] at read
  rw [render, List.map_congr_left fun g _ => groupLines_eq_text s g]
  exact read

theorem mem_keys_group (k : Key) : k ∈ k.group.keys := by
  cases k <;> decide

theorem mem_all (k : Key) : k ∈ Key.all := by
  cases k <;> decide

theorem lookup_document (s : Settings) (g : Group) :
    s.document.lookup g.name = some (.table .header (s.table g).items) := by
  cases g <;> rfl

theorem lookup_items (s : Settings) (k : Key) :
    (s.table k.group).items.lookup k.field = (s.value? k).map .text := by
  have found := lookup_filterMap Key.field (fun k => (s.value? k).map Toml.Item.text)
    (nodup_fields k.group) (mem_keys_group k)
  simpa [table, Toml.Table.items, List.map_filterMap, Function.comp_def] using found

theorem readItem?_value {s : Settings} {k : Key} {value : String} (has : s.value? k = some value) :
    Draft.readItem? k (.text value) = some value := by
  cases k with
  | format =>
      obtain rfl := Option.some.inj has
      simp [Draft.readItem?, Draft.formatName?, LogFormat.ofName?_name]
  | _ => rfl

theorem readKey?_document (s : Settings) (k : Key) :
    Draft.readKey? s.document k = some ((s.value? k).map (k, ·)) := by
  rw [Draft.readKey?, lookup_document]
  simp only [Draft.offered?, lookup_items]
  cases has : s.value? k with
  | none => rfl
  | some value => simp [readItem?_value has]

/-- What the text of settings sets: all values that there are. -/
def draft (s : Settings) : Draft where
  entries := Key.all.filterMap fun k => (s.value? k).map (k, ·)

theorem value?_draft (s : Settings) (k : Key) : s.draft.value? k = s.value? k :=
  lookup_filterMap id s.value? (by decide) (mem_all k)

theorem Draft.parse?_render (s : Settings) : Draft.parse? s.render = some s.draft := by
  have found : Key.all.mapM (readKey? s.document) =
      some (Key.all.map fun k => (s.value? k).map (k, ·)) := by
    rw [funext (readKey?_document s)]
    exact List.mapM_pure
  rw [parse?, parse?_render_document, Option.bind_some, ofEntries?, found]
  simp [draft, List.filterMap_map]

theorem Draft.complete_draft (s : Settings) : s.draft.complete = s := by
  simp only [complete, get, value?_draft]
  simp [Settings.value?, LogFormat.ofName?_name, Function.comp_def]

/-- Settings are read back from their text. -/
theorem parse?_render (s : Settings) : parse? s.render = some s := by
  rw [parse?, Draft.parse?_render, Option.map_some, Draft.complete_draft]

end Settings
end Registry
