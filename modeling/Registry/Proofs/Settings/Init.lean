import Registry.Proofs.Settings.Files

/-! # Directories of default settings

Making a directory with a file of default settings adds to the tree and changes nothing that was
there. What is loaded stays the same as long as no path of settings is led elsewhere by it, save to
the new file.
-/

namespace Registry.Settings

open FileTree

variable {t t' : FileTree} {current place : Location} {p q dir file workspace : Path}
  {s : Settings} {entry : FileEntry}

theorem isVoid_fileName : Path.isVoid "config.toml" = false := by
  decide

/-- What stands at the file of a directory, for one that can be followed. -/
theorem locate_file (notEmpty : dir.isEmpty = false) :
    t.locate current (dir.join fileName) = .ok place ↔
      ∃ above, t.stat current dir = .ok (above, .directory) ∧ place = "config.toml" :: above :=
  locate_join (by decide) fileName_parts isVoid_fileName (by decide) notEmpty

theorem initDirectory_eq (t : FileTree) (current : Location) (dir : Path) :
    initDirectory t current dir = andThen (prepare t current dir) fun prepared =>
      if prepared.contains current (dir.join fileName) then (.ok (dir.join fileName), prepared)
      else andThen (writeFile prepared current (dir.join fileName) {}) fun t =>
        (.ok (dir.join fileName), t) := by
  have write (t : FileTree) : andThen (writeFile t current (dir.join fileName) {})
      (fun t => (.ok (dir.join fileName), t)) =
        ((writeFile t current (dir.join fileName) {}).1.map fun _ => dir.join fileName,
          (writeFile t current (dir.join fileName) {}).2) := by
    rcases writeFile t current (dir.join fileName) {} with ⟨_ | _, t⟩ <;> rfl
  simp only [initDirectory, prepare, write]
  cases t.contains current dir with
  | true => rfl
  | false => rcases t.makeDirectories current dir with ⟨_ | _, made⟩ <;> rfl

/-- The directory is there or made, and its file is there or written. -/
theorem initDirectory_eq_ok (made : initDirectory t current dir = (.ok file, t')) :
    file = dir.join fileName ∧ ∃ prepared : FileTree, t.Grows (· = .directory) prepared ∧
      (dir.isEmpty = true ∨ prepared.contains current dir = true) ∧
      (prepared.contains current file = true ∧ t' = prepared ∨
        prepared.contains current file = false ∧
          writeFile prepared current file {} = (.ok (), t')) := by
  rw [initDirectory_eq] at made
  obtain ⟨prepared, ready, filled⟩ := andThen_eq_ok made
  obtain ⟨grows, -, followed⟩ := prepare_eq_ok ready
  cases there : prepared.contains current (dir.join fileName) with
  | true =>
      rw [if_pos there] at filled
      cases filled
      exact ⟨rfl, _, grows, followed, .inl ⟨there, rfl⟩⟩
  | false =>
      rw [if_neg (by simp [there])] at filled
      obtain ⟨after, written, done⟩ := andThen_eq_ok filled
      cases done
      exact ⟨rfl, prepared, grows, followed, .inr ⟨there, written⟩⟩

/-- What comes to a tree: directories, and files of default settings. -/
def IsDefault (entry : FileEntry) : Prop :=
  entry = .directory ∨ entry = .file (.text (render {}))

/-- The place of a file that is missing stays vacant while the directories that lead to it are
    made. -/
theorem vacant_of_missing {prepared made : FileTree}
    (followed : dir.isEmpty = true ∨ prepared.contains current dir = true)
    (missing : prepared.contains current (dir.join fileName) = false)
    (grows : prepared.Grows (· = .directory) made)
    (grown : made = prepared ∨ ∃ above, (dir.join fileName).parent? = some above ∧
      made = (prepared.makeDirectories current above).2)
    (located : made.locate current (dir.join fileName) = .ok place)
    (free : made.at? place ≠ some .directory) : made.at? place = none := by
  have before : prepared.locate current (dir.join fileName) = .ok place := by
    cases empty : dir.isEmpty with
    | true =>
        rw [Path.join_of_isEmpty (by decide) empty] at grown located ⊢
        obtain rfl | ⟨above, parent, rfl⟩ := grown
        · exact located
        · have top : fileName.parent? = some ⟨""⟩ := by decide
          obtain rfl := Option.some.inj (top.symm.trans parent)
          rwa [makeDirectories_of_isEmpty (by decide)] at located
    | false =>
        obtain ⟨above, found, rfl⟩ := (locate_file empty).1 located
        obtain ⟨⟨stood, entry⟩, stat⟩ := contains_iff.1 (followed.resolve_left (by simp [empty]))
        obtain ⟨rfl, rfl⟩ := by simpa [found] using grows.stat stat
        exact (locate_file empty).2 ⟨_, stat, rfl⟩
  have vacant : prepared.at? place = none := by
    by_contra stands
    obtain ⟨entry, stands⟩ := Option.ne_none_iff_exists'.1 stands
    simp [contains_iff.2 ⟨_, stat_eq_ok.2 ⟨before, stands⟩⟩] at missing
  by_contra stands
  obtain ⟨entry, stands⟩ := Option.ne_none_iff_exists'.1 stands
  rcases grows.added place entry stands with stood | rfl
  · simp [vacant] at stood
  · exact free stands

theorem initDirectory_grows (made : initDirectory t current dir = (.ok file, t')) :
    t.Grows IsDefault t' := by
  obtain ⟨rfl, prepared, grows, followed, ⟨-, rfl⟩ | ⟨missing, written⟩⟩ := initDirectory_eq_ok made
  · exact grows.mono fun _ => .inl
  · obtain ⟨above, written, further, grown⟩ := writeFile_eq_ok written
    obtain ⟨place, notRoot, located, free, rfl, -⟩ := writeText_eq_ok written
    have vacant := vacant_of_missing followed missing further grown located free
    exact ((grows.trans further).mono fun _ => .inl).trans (.put notRoot vacant (.inr rfl))

theorem contains_file (made : initDirectory t current dir = (.ok file, t')) :
    t'.contains current file = true := by
  obtain ⟨-, prepared, -, -, ⟨there, rfl⟩ | ⟨-, written⟩⟩ := initDirectory_eq_ok made
  · exact there
  · obtain ⟨place, found⟩ := stat_of_writeFile written
    exact contains_iff.2 ⟨_, found⟩

/-- A directory whose file is there is left as it is. -/
theorem initDirectory_of_contains (there : t.contains current (dir.join fileName) = true) :
    initDirectory t current dir = (.ok (dir.join fileName), t) := by
  rw [initDirectory]
  cases empty : dir.isEmpty with
  | true =>
      rw [makeDirectories_of_isEmpty empty]
      simp [there]
  | false =>
      obtain ⟨⟨place, entry⟩, found⟩ := contains_iff.1 there
      obtain ⟨above, stat, -⟩ := (locate_file empty).1 (stat_eq_ok.1 found).1
      simp [contains_iff.2 ⟨_, stat⟩, there]

theorem choosePath_default (default lower : Path) : choosePath default lower default = lower := by
  rw [choosePath, if_pos (Path.same_refl default)]

theorem overlay_default (lower : Settings) : overlay lower {} = lower := by
  simp [overlay, Storage.overlay, overlaySchema, Logging.overlay, choose, choosePath_default]

/-- A layer of default settings makes no difference, wherever it stands. -/
def Agree (before after : Option Settings) : Prop :=
  after = before ∨ before = none ∧ after = some {}

theorem Layers.stack_agree {layers layers' : List (Option Settings)}
    (agree : List.Forall₂ Agree layers layers') : stack layers' = stack layers := by
  rw [stack, stack]
  generalize ({} : Settings) = lower
  induction agree generalizing lower with
  | nil => rfl
  | cons first others ih =>
      rcases first with rfl | ⟨rfl, rfl⟩
      · rename_i before _ _
        cases before <;> simpa using ih _
      · simpa [overlay_default] using ih lower

/-- After the change the path leads where it led before, or to a file that was not there. -/
def LeadsOn (t t' : FileTree) (current : Location) (p : Path) : Prop :=
  ∀ place entry, t'.stat current p = .ok (place, entry) →
    t.stat current p = .ok (place, entry) ∨ t.at? place = none ∧ entry ≠ .directory

/-- Reading a layer fails alike before and after, or gives layers that agree. -/
inductive ReadAlike :
    (before after : Except SettingsError (Option Settings)) → Prop where
  | failed (e : SettingsError) : ReadAlike (.error e) (.error e)
  | read {before after : Option Settings} (agree : Agree before after) :
      ReadAlike (.ok before) (.ok after)

theorem ReadAlike.of_eq {before after : Except SettingsError (Option Settings)}
    (same : after = before) : ReadAlike before after := by
  subst same
  cases after with
  | error e => exact .failed e
  | ok layer => exact .read (.inl rfl)

theorem readFile?_alike (grows : t.Grows IsDefault t') (leads : LeadsOn t t' current p) :
    ReadAlike (readFile? t current p) (readFile? t' current p) := by
  cases there' : t'.contains current p with
  | false =>
      refine .of_eq ((readFile?_eq_none there').trans (readFile?_eq_none ?_).symm)
      exact Bool.eq_false_iff.2 fun there => by simp [grows.contains there] at there'
  | true =>
      obtain ⟨⟨place, entry⟩, found⟩ := contains_iff.1 there'
      rcases leads place entry found with before | ⟨vacant, notDirectory⟩
      · exact .of_eq (readFile?_congr (found.trans before.symm))
      · rcases grows.added place entry (stat_eq_ok.1 found).2 with stood | rfl | rfl
        · simp [vacant] at stood
        · exact absurd rfl notDirectory
        · cases there : t.contains current p with
          | true =>
              obtain ⟨⟨stood, entry⟩, before⟩ := contains_iff.1 there
              exact .of_eq (readFile?_congr ((grows.stat before).trans before.symm))
          | false =>
              rw [readFile?_eq_none there, readFile?_of_stat found]
              exact .read (.inr ⟨rfl, rfl⟩)

theorem Layers.readGlobal_alike {l : Layers} (fresh : l.remembered = none)
    (grows : t.Grows IsDefault t') (leads : ∀ q ∈ l.globalPath, LeadsOn t t' current q) :
    ReadAlike (l.readGlobal t current).1 (l.readGlobal t' current).1 := by
  cases path : l.globalPath with
  | none =>
      rw [readGlobal_of_homeless fresh path, readGlobal_of_homeless fresh path]
      exact .of_eq rfl
  | some q =>
      rw [readGlobal_of_path fresh path, readGlobal_of_path fresh path]
      exact readFile?_alike grows (leads q path)

theorem Layers.readExplicit_agree {l : Layers} (grows : t.Grows IsDefault t')
    (same : ∀ q ∈ l.explicit, ∀ found, t'.stat current q = .ok found →
      t.stat current q = .ok found) :
    l.readExplicit t' current = l.readExplicit t current := by
  cases asked : l.explicit with
  | none => rw [readExplicit, readExplicit, asked]
  | some q =>
      simp only [readExplicit, asked, readFile]
      cases there' : t'.contains current q with
      | true =>
          obtain ⟨found, stat⟩ := contains_iff.1 there'
          have alike := stat.trans (same q asked found stat).symm
          rw [← contains_congr alike, there', readText_congr alike]
      | false =>
          have there : t.contains current q = false :=
            Bool.eq_false_iff.2 fun there => by simp [grows.contains there] at there'
          rw [there, if_neg Bool.false_ne_true, if_neg Bool.false_ne_true]

/-- The paths of settings lead where they led before, but for the new file. -/
structure Layers.LeadOn (t t' : FileTree) (current : Location) (workspace : Path) (l : Layers) :
    Prop where
  globally : ∀ q ∈ l.globalPath, LeadsOn t t' current q
  locally : LeadsOn t t' current (localPath workspace)
  asked : ∀ q ∈ l.explicit, ∀ found, t'.stat current q = .ok found → t.stat current q = .ok found

theorem Layers.load_agree {l : Layers} (fresh : l.remembered = none)
    (grows : t.Grows IsDefault t') (lead : l.LeadOn t t' current workspace) (o : Overrides) :
    (l.load t' current workspace o).1 = (l.load t current workspace o).1 := by
  rw [load_fst, load_fst, readLocal, readLocal, readExplicit_agree grows lead.asked]
  have globally := readGlobal_alike fresh grows lead.globally
  have locally := readFile?_alike grows lead.locally
  generalize (l.readGlobal t current).1 = global, (l.readGlobal t' current).1 = global'
    at globally ⊢
  generalize readFile? t current (localPath workspace) = own,
    readFile? t' current (localPath workspace) = own' at locally ⊢
  cases globally with
  | failed e => rfl
  | @read global global' globally =>
      cases locally with
      | failed e => rfl
      | @read own own' locally =>
          cases l.readExplicit t current with
          | error e => rfl
          | ok asked =>
              have same : stack [global', own', asked] = stack [global, own, asked] :=
                stack_agree (.cons globally (.cons locally (.cons (.inl rfl) .nil)))
              simp only [bind, Except.bind, same]

/-- After a directory of default settings is made, in a workspace or at home, the same settings are
    loaded as before, or the same error is met. A second time nothing changes, and what stood in the
    tree stands there as it was. -/
theorem load_initDirectory {l : Layers} {o : Overrides} (fresh : l.remembered = none)
    (made : initDirectory t current dir = (.ok file, t'))
    (lead : l.LeadOn t t' current workspace) :
    (l.load t' current workspace o).1 = (l.load t current workspace o).1 ∧
      initDirectory t' current dir = (.ok file, t') ∧
      ∀ place entry, t.at? place = some entry → t'.at? place = some entry := by
  have grows := initDirectory_grows made
  have again := contains_file made
  obtain ⟨rfl, -⟩ := initDirectory_eq_ok made
  exact ⟨Layers.load_agree fresh grows lead o, initDirectory_of_contains again, grows.kept⟩

/-- A workspace without a directory of settings, and one below it that has some. -/
def nested : FileTree where
  entries := [(["ws"], .directory), (["g", "ws"], .directory),
    (["config.toml", "g", "ws"], .file (.text verbose.render))]

theorem load_initDirectory_nested :
    ∃ t', initDirectory nested [] ⟨"/ws/.scopegraph"⟩ = (.ok ⟨"/ws/.scopegraph/config.toml"⟩, t') ∧
      (Layers.load t' [] ⟨"/ws"⟩ {} ⟨some ⟨"/ws/g"⟩, none, none⟩).1 =
        (Layers.load nested [] ⟨"/ws"⟩ {} ⟨some ⟨"/ws/g"⟩, none, none⟩).1 := by
  have made : (initDirectory nested [] ⟨"/ws/.scopegraph"⟩).1 =
    .ok ⟨"/ws/.scopegraph/config.toml"⟩ := rfl
  refine ⟨_, Prod.ext made rfl, (load_initDirectory rfl (Prod.ext made rfl) ?_).1⟩
  have path : Layers.globalPath ⟨some ⟨"/ws/g"⟩, none, none⟩ = some ⟨"/ws/g/config.toml"⟩ := rfl
  have old : nested.stat [] ⟨"/ws/g/config.toml"⟩ =
    .ok (["config.toml", "g", "ws"], .file (.text verbose.render)) := rfl
  have new : (initDirectory nested [] ⟨"/ws/.scopegraph"⟩).2.stat [] (localPath ⟨"/ws"⟩) =
    .ok (["config.toml", ".scopegraph", "ws"], .file (.text (render {}))) := rfl
  refine ⟨fun q listed place entry found => .inl ?_, fun place entry found => .inr ?_, nofun⟩
  · obtain rfl := Option.some.inj (path.symm.trans listed)
    have kept := (initDirectory_grows (Prod.ext made rfl)).stat old
    exact old.trans (kept.symm.trans found)
  · obtain ⟨rfl, rfl⟩ := Prod.mk.inj (Except.ok.inj (new.symm.trans found))
    exact ⟨rfl, nofun⟩

/-- A home that is reached through the directory to be made. -/
def detour : Layers where
  globalDir := some ⟨"/ws/.scopegraph/../g"⟩

/-- The directory that is made lets the global path lead to a file that it did not lead to. -/
theorem initDirectory_detour :
    ∃ t', initDirectory nested [] ⟨"/ws/.scopegraph"⟩ = (.ok ⟨"/ws/.scopegraph/config.toml"⟩, t') ∧
      (detour.readGlobal nested []).1 = .ok none ∧
      readFile? nested [] (localPath ⟨"/ws"⟩) = .ok none ∧
      (detour.readGlobal t' []).1 = .ok (some verbose) ∧
      readFile? t' [] (localPath ⟨"/ws"⟩) = .ok (some {}) := by
  have made : (initDirectory nested [] ⟨"/ws/.scopegraph"⟩).1 =
    .ok ⟨"/ws/.scopegraph/config.toml"⟩ := rfl
  have path : detour.globalPath = some ⟨"/ws/.scopegraph/../g/config.toml"⟩ := rfl
  exact ⟨_, Prod.ext made rfl,
    (Layers.readGlobal_of_path rfl path).trans (readFile?_eq_none rfl), readFile?_eq_none rfl,
    (Layers.readGlobal_of_path rfl path).trans (readFile?_of_stat rfl), readFile?_of_stat rfl⟩

theorem load_initDirectory_detour :
    ¬ ∀ (t t' : FileTree) (current : Location) (workspace dir file : Path) (l : Layers)
      (o : Overrides), l.remembered = none →
      (dir = workspace.join directoryName ∨ some dir = l.globalDir) →
      initDirectory t current dir = (.ok file, t') →
      (∀ q ∈ l.explicit, ∀ found, t'.stat current q = .ok found → t.stat current q = .ok found) →
      (l.load t' current workspace o).1 = (l.load t current workspace o).1 := by
  intro unchanged
  obtain ⟨t', made, globalBefore, ownBefore, global, own⟩ := initDirectory_detour
  have same := unchanged nested t' [] ⟨"/ws"⟩ ⟨"/ws/.scopegraph"⟩ _ detour {} rfl (.inl rfl) made
    nofun
  have asked (t : FileTree) : detour.readExplicit t [] = .ok none := rfl
  have before : (detour.load nested [] ⟨"/ws"⟩ {}).1 = (check {}).map fun _ => {} :=
    Layers.load_of_reads globalBefore ownBefore (asked nested) {}
  have after : (detour.load t' [] ⟨"/ws"⟩ {}).1 = verbose.check.map fun _ => verbose := by
    have stacked : Layers.stack [some verbose, some {}, none] = verbose := by decide
    have loaded := Layers.load_of_reads global own (asked t') {}
    rwa [stacked] at loaded
  rw [before, after, check_empty, check_verbose] at same
  exact absurd (Except.ok.inj same) (by decide)

end Registry.Settings
