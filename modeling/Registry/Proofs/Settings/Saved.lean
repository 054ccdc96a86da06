import Registry.Proofs.Settings.Files

/-! # Settings that were saved

Saved settings are read back as they were. Loaded, they may only have a storage path that is the
same as the default one written like the default.
-/

namespace Registry.Settings

open FileTree

/-- Settings that agree, though their storage paths may be written in different ways. -/
structure Same (s s' : Settings) : Prop where
  dataDir : s.storage.dataDir.same s'.storage.dataDir = true
  database : s.storage.database.same s'.storage.database = true
  cleanup : s.cleanup = s'.cleanup
  logging : s.logging = s'.logging

variable {s s' lower : Settings}

theorem Same.refl (s : Settings) : Same s s :=
  ⟨Path.same_refl _, Path.same_refl _, rfl, rfl⟩

theorem Same.check (same : Same s s') : s.check = s'.check := by
  rw [Settings.check, Settings.check, Path.isEmpty_of_same same.database, same.cleanup,
    same.logging]

theorem choose_eq {α : Type} [DecidableEq α] {default lower upper : α}
    (covered : lower = default ∨ lower = upper) : choose default lower upper = upper := by
  rw [choose]
  split
  · simp_all
  · rfl

theorem choosePath_same {default lower upper : Path}
    (covered : lower = default ∨ lower.same upper = true) :
    (choosePath default lower upper).same upper = true := by
  rw [choosePath]
  split
  · rcases covered with rfl | same
    · rwa [Path.same_comm]
    · exact same
  · exact Path.same_refl upper

theorem overlaySchema_eq {lower upper : Cleanup.Schema} (covered : lower = {} ∨ lower = upper) :
    overlaySchema lower upper = upper := by
  rcases covered with rfl | rfl
  · simp only [overlaySchema, choose_eq (.inl rfl)]
  · simp only [overlaySchema, choose_eq (.inr rfl)]

theorem Logging.overlay_eq {lower upper : Logging} (covered : lower = {} ∨ lower = upper) :
    lower.overlay upper = upper := by
  rcases covered with rfl | rfl
  · simp [Logging.overlay, choose_eq]
  · simp [Logging.overlay, choose_eq]

/-- Over the defaults and over the like of themselves settings come through. -/
theorem overlay_same (covered : lower = {} ∨ Same lower s) : Same (overlay lower s) s where
  dataDir := choosePath_same (covered.imp (by rintro rfl; rfl) (·.dataDir))
  database := choosePath_same (covered.imp (by rintro rfl; rfl) (·.database))
  cleanup := overlaySchema_eq (covered.imp (by rintro rfl; rfl) (·.cleanup))
  logging := Logging.overlay_eq (covered.imp (by rintro rfl; rfl) (·.logging))

theorem foldl_overlay_same {layers : List Settings} (all : ∀ layer ∈ layers, layer = s) :
    ∀ {lower : Settings}, lower = {} ∧ layers ≠ [] ∨ Same lower s →
      Same (layers.foldl overlay lower) s := by
  induction layers with
  | nil =>
      rintro lower (⟨-, empty⟩ | same)
      · exact absurd rfl empty
      · exact same
  | cons first rest ih =>
      intro lower covered
      obtain ⟨rfl, others⟩ := List.forall_mem_cons.1 all
      exact ih others (.inr (overlay_same (covered.imp_left (·.1))))

/-- Layers of the same settings, some of them missing, but not all. -/
theorem Layers.stack_same {layers : List (Option Settings)}
    (all : ∀ layer ∈ layers, layer = none ∨ layer = some s) (one : some s ∈ layers) :
    Same (stack layers) s := by
  refine foldl_overlay_same (fun layer member => ?_) (.inl ⟨rfl, ?_⟩)
  · obtain ⟨found, listed, rfl⟩ := List.mem_filterMap.1 member
    simpa using all _ listed
  · exact List.ne_nil_of_mem (List.mem_filterMap.2 ⟨some s, one, rfl⟩)

/-- Of the paths that settings are read from, none leads to a file other than the one at `p`. -/
structure Layers.OnlyFile (t : FileTree) (current : Location) (workspace : Path) (l : Layers)
    (p : Path) : Prop where
  listed : l.globalPath = some p ∨ p = localPath workspace
  globally : ∀ q ∈ l.globalPath, t.contains current q = true → t.stat current q = t.stat current p
  locally : t.contains current (localPath workspace) = true →
    t.stat current (localPath workspace) = t.stat current p
  asked : ∀ q ∈ l.explicit, t.stat current q = t.stat current p

variable {t t' : FileTree} {current place : Location} {workspace p q : Path}

/-- What is read from a path that leads to saved settings, if it leads to anything. -/
theorem readFile?_saved (found : t.stat current p = .ok (place, .file (.text s.render)))
    (only : t.contains current q = true → t.stat current q = t.stat current p) :
    ∃ layer, readFile? t current q = .ok layer ∧ (layer = none ∨ layer = some s) ∧
      (p = q → layer = some s) := by
  cases there : t.contains current q with
  | false =>
      refine ⟨none, readFile?_eq_none there, .inl rfl, ?_⟩
      rintro rfl
      simp [contains_iff.2 ⟨_, found⟩] at there
  | true => exact ⟨some s, readFile?_of_stat ((only there).trans found), .inr rfl, fun _ => rfl⟩

theorem Layers.readGlobal_saved {l : Layers} (fresh : l.remembered = none)
    (found : t.stat current p = .ok (place, .file (.text s.render)))
    (only : ∀ q ∈ l.globalPath, t.contains current q = true →
      t.stat current q = t.stat current p) :
    ∃ layer, (l.readGlobal t current).1 = .ok layer ∧ (layer = none ∨ layer = some s) ∧
      (l.globalPath = some p → layer = some s) := by
  cases path : l.globalPath with
  | none => exact ⟨none, readGlobal_of_homeless fresh path, .inl rfl, nofun⟩
  | some q =>
      obtain ⟨layer, read, cases, here⟩ := readFile?_saved found (only q path)
      refine ⟨layer, (readGlobal_of_path fresh path).trans read, cases, fun same => here ?_⟩
      exact (Option.some.inj same).symm

theorem Layers.readExplicit_of_contains {l : Layers} (asked : l.explicit = some q)
    (there : t.contains current q = true) :
    l.readExplicit t current = readFile? t current q := by
  rw [readExplicit, asked, readFile?]
  simp [there]

theorem Layers.readExplicit_saved {l : Layers}
    (found : t.stat current p = .ok (place, .file (.text s.render)))
    (only : ∀ q ∈ l.explicit, t.stat current q = t.stat current p) :
    ∃ layer, l.readExplicit t current = .ok layer ∧ (layer = none ∨ layer = some s) := by
  cases asked : l.explicit with
  | none => exact ⟨none, by rw [readExplicit, asked], .inl rfl⟩
  | some q =>
      have same := (only q asked).trans found
      refine ⟨some s, ?_, .inr rfl⟩
      rw [readExplicit_of_contains asked (contains_iff.2 ⟨_, same⟩), readFile?_of_stat same]

theorem Layers.load_same {l : Layers} (fresh : l.remembered = none)
    (found : t.stat current p = .ok (place, .file (.text s.render)))
    (only : l.OnlyFile t current workspace p) (usable : s.check = .ok ()) :
    ∃ loaded, (l.load t current workspace {}).1 = .ok loaded ∧ Same loaded s := by
  obtain ⟨global, readGlobal, globalCases, globalHere⟩ := readGlobal_saved fresh found only.globally
  obtain ⟨own, readLocal, ownCases, ownHere⟩ := readFile?_saved found only.locally
  obtain ⟨asked, readAsked, askedCases⟩ := readExplicit_saved found only.asked
  have same : Same (stack [global, own, asked]) s := by
    refine stack_same (by simp [globalCases, ownCases, askedCases]) ?_
    rcases only.listed with here | here
    · simp [globalHere here]
    · simp [ownHere here]
  refine ⟨stack [global, own, asked], ?_, same⟩
  rw [load_of_reads readGlobal readLocal readAsked, override_empty, same.check, usable]
  rfl

/-- Saved settings are read back, from their text and from the file that holds it; and as long as no
    other file takes part, they are what is loaded, if they can be used. -/
theorem saved_readsBack (s : Settings) :
    parse? s.render = some s ∧
    ∀ (t t' : FileTree) (current : Location) (workspace : Path) (l : Layers),
      l.remembered = none →
      (writeFile t current (localPath workspace) s = (.ok (), t') →
        Layers.readLocal t' current workspace = .ok (some s)) ∧
      (l.saveGlobal t current s = (.ok (), t') →
        (l.readGlobal t' current).1 = .ok (some s)) ∧
      ∀ p, writeFile t current p s = (.ok (), t') → l.OnlyFile t' current workspace p →
        s.check = .ok () →
        ∃ loaded, (l.load t' current workspace {}).1 = .ok loaded ∧ Same loaded s := by
  refine ⟨parse?_render s, fun t t' current workspace l fresh => ⟨fun written => ?_,
    fun written => ?_, fun p written only usable => ?_⟩⟩
  · obtain ⟨place, found⟩ := stat_of_writeFile written
    exact readFile?_of_stat found
  · rw [Layers.saveGlobal] at written
    split at written
    · cases written
    · rename_i q path
      obtain ⟨place, found⟩ := stat_of_writeFile written
      exact (Layers.readGlobal_of_path fresh path).trans (readFile?_of_stat found)
  · obtain ⟨place, found⟩ := stat_of_writeFile written
    exact Layers.load_same fresh found only usable

/-- Settings with quotes, backslashes, line breaks and control characters. -/
def awkward : Settings where
  storage := { dataDir := ⟨".scopegraph/"⟩, database := ⟨"a'\"\\\n.db"⟩ }
  logging := { level := "DEBUG", file := some ⟨"\\'''\x00\t"⟩ }

/-- They are saved in an empty tree, and loaded with the default data directory. -/
theorem saved_readsBack_awkward :
    ∃ t', writeFile {} [] (localPath ⟨"/w"⟩) awkward = (.ok (), t') ∧
      Layers.readLocal t' [] ⟨"/w"⟩ = .ok (some awkward) ∧
      ∃ loaded, (Layers.load t' [] ⟨"/w"⟩ {} ⟨some ⟨"/h"⟩, none, none⟩).1 = .ok loaded ∧
        Same loaded awkward := by
  have written : (writeFile {} [] (localPath ⟨"/w"⟩) awkward).1 = .ok () := rfl
  have only : Layers.OnlyFile (writeFile {} [] (localPath ⟨"/w"⟩) awkward).2 [] ⟨"/w"⟩
      ⟨some ⟨"/h"⟩, none, none⟩ (localPath ⟨"/w"⟩) :=
    { listed := .inr rfl
      globally := by
        have path : Layers.globalPath ⟨some ⟨"/h"⟩, none, none⟩ = some ⟨"/h/config.toml"⟩ := rfl
        have absent : (writeFile {} [] (localPath ⟨"/w"⟩) awkward).2.contains []
            ⟨"/h/config.toml"⟩ = false := rfl
        simp [path, absent]
      locally := fun _ => rfl
      asked := nofun }
  have usable : awkward.check = .ok () :=
    check_of_default rfl rfl (by rw [fold_eq_ofList]; decide)
  obtain ⟨-, files⟩ := saved_readsBack awkward
  obtain ⟨locally, -, load⟩ := files {} _ [] ⟨"/w"⟩ ⟨some ⟨"/h"⟩, none, none⟩ rfl
  exact ⟨_, Prod.ext written rfl, locally (Prod.ext written rfl),
    load _ (Prod.ext written rfl) only usable⟩

end Registry.Settings
