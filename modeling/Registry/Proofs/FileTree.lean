import Registry.FileTree
import Registry.Proofs.Path

/-! # File trees that grow

A path leads to the same place as long as directories stay what they are. Making directories only
adds directories, and a file that is written is the one that its path then leads to.
-/

namespace Registry.FileTree

variable {t t' : FileTree} {current place dir : Location} {p : Path} {entry : FileEntry}

theorem checkDirectory_eq_ok : t.checkDirectory place = .ok () ↔ t.at? place = some .directory := by
  rw [checkDirectory]
  split <;> simp_all

theorem follow_append (parts more : List String) :
    t.follow place (parts ++ more) = (t.follow place parts).bind (t.follow · more) := by
  induction parts generalizing place with
  | nil => rfl
  | cons part rest ih =>
      simp only [List.cons_append, follow, bind, Except.bind]
      cases t.checkDirectory place with
      | error e => rfl
      | ok _ =>
          simp only
          split
          · exact ih
          · split <;> exact ih

theorem follow_name {name : String} (plain : Path.isVoid name = false) (notUp : name ≠ "..")
    (isDirectory : t.at? dir = some .directory) : t.follow dir [name] = .ok (name :: dir) := by
  simp only [follow, checkDirectory_eq_ok.2 isDirectory, bind, Except.bind, plain, if_neg notUp]
  rfl

/-- Slashes behind a directory lead nowhere else. -/
theorem follow_gaps {gaps : List String} (void : ∀ gap ∈ gaps, Path.isVoid gap = true)
    (isDirectory : t.at? dir = some .directory) : t.follow dir gaps = .ok dir := by
  induction gaps with
  | nil => rfl
  | cons gap rest ih =>
      obtain ⟨first, others⟩ := List.forall_mem_cons.1 void
      simp only [follow, checkDirectory_eq_ok.2 isDirectory, bind, Except.bind, first]
      exact ih others

/-- What is a directory in `t` is one in `t'`. -/
def KeepsDirectories (t t' : FileTree) : Prop :=
  ∀ place, t.at? place = some .directory → t'.at? place = some .directory

namespace KeepsDirectories

theorem refl (t : FileTree) : t.KeepsDirectories t :=
  fun _ stands => stands

theorem follow (keeps : t.KeepsDirectories t') {parts : List String} {target : Location}
    (found : t.follow place parts = .ok target) : t'.follow place parts = .ok target := by
  induction parts generalizing place with
  | nil => exact found
  | cons part rest ih =>
      simp only [FileTree.follow, bind, Except.bind] at found ⊢
      cases checked : t.checkDirectory place with
      | error e => simp [checked] at found
      | ok _ =>
          rw [checkDirectory_eq_ok.2 (keeps place (checkDirectory_eq_ok.1 checked))]
          simp only [checked] at found
          simp only
          split at found
          · rw [if_pos ‹_›]
            exact ih found
          · rw [if_neg ‹_›]
            split at found
            · rw [if_pos ‹_›]
              exact ih found
            · rw [if_neg ‹_›]
              exact ih found

theorem locate (keeps : t.KeepsDirectories t') (found : t.locate current p = .ok place) :
    t'.locate current p = .ok place := by
  rw [FileTree.locate] at found ⊢
  split at found
  · contradiction
  · rw [if_neg ‹_›]
    exact keeps.follow found

end KeepsDirectories

theorem keepsDirectories_put (notRoot : place ≠ []) (free : t.at? place ≠ some .directory)
    (entry : FileEntry) : t.KeepsDirectories (t.put place entry) := by
  intro other stands
  rw [at?_put notRoot, if_neg]
  · exact stands
  · rintro rfl
    exact free stands

theorem stat_eq_ok : t.stat current p = .ok (place, entry) ↔
    t.locate current p = .ok place ∧ t.at? place = some entry := by
  simp only [stat, bind, Except.bind]
  cases t.locate current p with
  | error e => simp
  | ok found =>
      simp only [Except.ok.injEq]
      cases stands : t.at? found with
      | none =>
          simp only [reduceCtorEq, false_iff, not_and]
          rintro rfl
          simp [stands]
      | some entry =>
          simp only [Except.ok.injEq, Prod.mk.injEq]
          constructor
          · rintro ⟨rfl, rfl⟩
            exact ⟨rfl, stands⟩
          · rintro ⟨rfl, same⟩
            exact ⟨rfl, Option.some.inj (stands.symm.trans same)⟩

theorem contains_iff : t.contains current p = true ↔ ∃ found, t.stat current p = .ok found := by
  rw [contains]
  split <;> simp_all

theorem contains_congr (same : t.stat current p = t'.stat current p) :
    t.contains current p = t'.contains current p := by
  rw [contains, same, contains]

theorem readText_congr (same : t.stat current p = t'.stat current p) :
    t.readText current p = t'.readText current p := by
  rw [readText, same, readText]

theorem isDirectory_iff : t.isDirectory current p = true ↔
    ∃ place, t.stat current p = .ok (place, .directory) := by
  rw [isDirectory]
  split <;> simp_all

theorem readText_of_stat {value : String}
    (found : t.stat current p = .ok (place, .file (.text value))) :
    t.readText current p = .ok value := by
  simp [readText, found, bind, Except.bind]

/-- The parts of a path up to its last name, and the empty ones behind it. -/
theorem split_last {parts before : List String} {last : String}
    (found : parts.reverse.dropWhile (· = "") = last :: before) :
    ∃ gaps, parts = before.reverse ++ last :: gaps ∧ last ≠ "" ∧ (∀ gap ∈ gaps, gap = "") ∧
      (parts.getLast? ≠ some "" → gaps = []) := by
  have whole := List.takeWhile_append_dropWhile (p := (· = "")) (l := parts.reverse)
  have void := List.all_takeWhile (p := (· = "")) (l := parts.reverse)
  have notGap := List.head?_dropWhile_not (· = "") parts.reverse
  rw [found] at whole notGap
  generalize parts.reverse.takeWhile (· = "") = gaps at whole void
  refine ⟨gaps.reverse, ?_, by simpa using notGap, by simpa using void, fun noSlash => ?_⟩
  · rw [← List.reverse_reverse parts, ← whole]
    simp
  · rw [← List.head?_reverse, ← whole] at noSlash
    cases gaps with
    | nil => rfl
    | cons gap more =>
        obtain ⟨rfl, -⟩ := by simpa using void
        exact absurd rfl noSlash

/-- A path leads through a directory to a name in it, with at most slashes behind the name. -/
structure EndsIn (t : FileTree) (current : Location) (p : Path) (dir : Location) (name : String)
    (gaps : List String) : Prop where
  notEmpty : p.isEmpty = false
  parts : ∃ before, p.parts = before ++ name :: gaps ∧ t.follow (start current p) before = .ok dir
  isDirectory : t.at? dir = some .directory
  plain : Path.isVoid name = false
  notUp : name ≠ ".."
  void : ∀ gap ∈ gaps, gap = ""

theorem endsIn_of_lastPart {part : LastPart} (found : t.lastPart current p = .ok (dir, part)) :
    part = .here ∨ ∃ name gaps, t.EndsIn current p dir name gaps ∧
      (part = .name name ∧ gaps = [] ∨ part = .directoryName name) := by
  rw [lastPart] at found
  split at found
  · contradiction
  rename_i notEmpty
  split at found
  · simp_all
  rename_i last before parted
  obtain ⟨gaps, whole, notGap, void, noGaps⟩ := split_last parted
  simp only [bind, Except.bind] at found
  cases followed : t.follow (start current p) before.reverse with
  | error e => simp [followed] at found
  | ok above =>
      cases checked : t.checkDirectory above with
      | error e => simp [followed, checked] at found
      | ok _ =>
          simp only [followed, checked] at found
          split at found
          · simp_all
          · rename_i notDots
            have ends : t.EndsIn current p above last gaps :=
              ⟨Bool.eq_false_iff.2 notEmpty, ⟨_, whole, followed⟩, checkDirectory_eq_ok.1 checked,
                by simp_all [Path.isVoid], by simp_all, void⟩
            refine .inr ⟨last, gaps, ?_⟩
            split at found
            · obtain ⟨rfl, rfl⟩ := by simpa using found
              exact ⟨ends, .inr rfl⟩
            · rename_i noSlash
              obtain ⟨rfl, rfl⟩ := by simpa using found
              exact ⟨ends, .inl ⟨rfl, noGaps (by simpa using noSlash)⟩⟩

theorem EndsIn.locate {name : String} {gaps : List String}
    (ends : t.EndsIn current p dir name gaps) (keeps : t.KeepsDirectories t')
    (there : gaps = [] ∨ t'.at? (name :: dir) = some .directory) :
    t'.locate current p = .ok (name :: dir) := by
  obtain ⟨notEmpty, ⟨before, whole, followed⟩, isDirectory, plain, notUp, void⟩ := ends
  have here : t'.follow (start current p) (before ++ [name]) = .ok (name :: dir) := by
    rw [follow_append, keeps.follow followed]
    exact follow_name plain notUp (keeps dir isDirectory)
  rw [FileTree.locate, if_neg (by simp [notEmpty]), whole, List.append_cons, follow_append, here]
  rcases there with rfl | there
  · rfl
  · exact follow_gaps (fun gap member => by simp [void gap member, Path.isVoid]) there

/-! ## Writing a file -/

theorem fileTarget_eq_ok (found : t.fileTarget current p = .ok place) :
    place ≠ [] ∧ t.locate current p = .ok place ∧ t.at? place ≠ some .directory := by
  simp only [fileTarget, bind, Except.bind] at found
  cases last : t.lastPart current p with
  | error e => simp [last] at found
  | ok result =>
      obtain ⟨dir, part⟩ := result
      obtain rfl | ⟨name, gaps, ends, ⟨rfl, rfl⟩ | rfl⟩ := endsIn_of_lastPart last
      · simp [last] at found
      · simp only [last] at found
        split at found
        · contradiction
        · rename_i notDirectory
          obtain rfl := by simpa using found
          exact ⟨List.cons_ne_nil _ _, ends.locate (.refl t) (.inl rfl), notDirectory⟩
      · simp [last] at found

/-- What is written to a file is what stands where its path leads from then on. -/
theorem writeText_eq_ok {value : String} (written : t.writeText current p value = .ok t') :
    ∃ place, place ≠ [] ∧ t.locate current p = .ok place ∧ t.at? place ≠ some .directory ∧
      t' = t.put place (.file (.text value)) ∧
      t'.stat current p = .ok (place, .file (.text value)) := by
  simp only [writeText, bind, Except.bind, pure, Except.pure] at written
  cases found : t.fileTarget current p with
  | error e => simp [found] at written
  | ok place =>
      obtain rfl : t.put place (.file (.text value)) = t' := by simpa [found] using written
      obtain ⟨notRoot, located, free⟩ := fileTarget_eq_ok found
      refine ⟨place, notRoot, located, free, rfl, stat_eq_ok.2 ⟨?_, ?_⟩⟩
      · exact (keepsDirectories_put notRoot free _).locate located
      · rw [at?_put notRoot, if_pos rfl]

/-! ## Making directories -/

theorem makeDirectory_eq_ok (made : t.makeDirectory current p = .ok t') :
    ∃ place, place ≠ [] ∧ t.at? place = none ∧ t' = t.put place .directory ∧
      t'.stat current p = .ok (place, .directory) := by
  simp only [makeDirectory, bind, Except.bind, pure, Except.pure] at made
  cases last : t.lastPart current p with
  | error e => simp [last] at made
  | ok result =>
      obtain ⟨dir, part⟩ := result
      obtain rfl | ⟨name, gaps, ends, named⟩ := endsIn_of_lastPart last
      · simp [last] at made
      · have made : t.at? (name :: dir) = none ∧ t.put (name :: dir) .directory = t' := by
          obtain ⟨rfl, -⟩ | rfl := named
          all_goals
            simp only [last] at made
            split at made
            · contradiction
            · exact ⟨‹_›, by simpa using made⟩
        obtain ⟨free, rfl⟩ := made
        have there : (t.put (name :: dir) .directory).at? (name :: dir) = some .directory := by
          rw [at?_put (List.cons_ne_nil _ _), if_pos rfl]
        have keeps : t.KeepsDirectories (t.put (name :: dir) .directory) :=
          keepsDirectories_put (List.cons_ne_nil _ _) (by simp [free]) _
        exact ⟨name :: dir, List.cons_ne_nil _ _, free, rfl,
          stat_eq_ok.2 ⟨ends.locate keeps (.inr there), there⟩⟩

/-- What stands in `t` stands in `t'`, and what is new there is of a certain kind. -/
structure Grows (new : FileEntry → Prop) (t t' : FileTree) : Prop where
  kept : ∀ place entry, t.at? place = some entry → t'.at? place = some entry
  added : ∀ place entry, t'.at? place = some entry → t.at? place = some entry ∨ new entry

namespace Grows

variable {new new' : FileEntry → Prop} {t'' : FileTree}

theorem refl (t : FileTree) : t.Grows new t :=
  ⟨fun _ _ stands => stands, fun _ _ stands => .inl stands⟩

theorem trans (first : t.Grows new t') (second : t'.Grows new t'') : t.Grows new t'' where
  kept place entry stands := second.kept place entry (first.kept place entry stands)
  added place entry stands := (second.added place entry stands).elim (first.added place entry) .inr

theorem mono (grows : t.Grows new t') (weaker : ∀ entry, new entry → new' entry) :
    t.Grows new' t' :=
  ⟨grows.kept, fun place entry stands => (grows.added place entry stands).imp_right (weaker entry)⟩

theorem put (notRoot : place ≠ []) (free : t.at? place = none) (kind : new entry) :
    t.Grows new (t.put place entry) where
  kept other stood stands := by
    rw [at?_put notRoot, if_neg]
    · exact stands
    · rintro rfl
      simp [free] at stands
  added other stood stands := by
    rw [at?_put notRoot] at stands
    split at stands
    · obtain rfl := Option.some.inj stands
      exact .inr kind
    · exact .inl stands

theorem keepsDirectories (grows : t.Grows new t') : t.KeepsDirectories t' :=
  fun place => grows.kept place .directory

theorem stat (grows : t.Grows new t') (found : t.stat current p = .ok (place, entry)) :
    t'.stat current p = .ok (place, entry) := by
  obtain ⟨located, stands⟩ := stat_eq_ok.1 found
  exact stat_eq_ok.2 ⟨grows.keepsDirectories.locate located, grows.kept place entry stands⟩

theorem contains (grows : t.Grows new t') (there : t.contains current p = true) :
    t'.contains current p = true := by
  obtain ⟨⟨place, entry⟩, found⟩ := contains_iff.1 there
  exact contains_iff.2 ⟨_, grows.stat found⟩

end Grows

/-- The last step of making a directory with those above it: it is made, or was there before. -/
theorem makeLineage_cons (t : FileTree) (current : Location) (p : Path) (above : List Path) :
    ∃ made, (made = t ∨ made = (t.makeLineage current above).2) ∧
      (made.makeDirectory current p = .ok (t.makeLineage current (p :: above)).2 ∨
        (t.makeLineage current (p :: above)).2 = made ∧
          ((t.makeLineage current (p :: above)).1 = .ok () →
            p.isEmpty = true ∨ made.isDirectory current p = true)) := by
  rw [makeLineage]
  split
  · exact ⟨t, .inl rfl, .inr ⟨rfl, fun _ => .inl ‹_›⟩⟩
  · split
    · rename_i t' made
      exact ⟨t, .inl rfl, .inl made⟩
    · split
      · rename_i t' lineage
        split
        · rename_i t'' made
          exact ⟨t', .inr (by rw [lineage]), .inl made⟩
        · refine ⟨t', .inr (by rw [lineage]), .inr ⟨rfl, fun settled => .inr ?_⟩⟩
          by_contra absent
          simp [absent] at settled
      · rename_i e t' lineage
        exact ⟨t', .inr (by rw [lineage]), .inr ⟨rfl, nofun⟩⟩
    · refine ⟨t, .inl rfl, .inr ⟨rfl, fun settled => .inr ?_⟩⟩
      by_contra absent
      simp [absent] at settled

theorem makeLineage_grows (t : FileTree) (current : Location) (ps : List Path) :
    t.Grows (· = .directory) (t.makeLineage current ps).2 := by
  induction ps with
  | nil => exact .refl t
  | cons p above ih =>
      obtain ⟨made, before, last⟩ := makeLineage_cons t current p above
      have grows : t.Grows (· = .directory) made := by
        rcases before with rfl | rfl
        · exact .refl _
        · exact ih
      rcases last with last | ⟨same, -⟩
      · obtain ⟨place, notRoot, free, made, -⟩ := makeDirectory_eq_ok last
        rw [made]
        exact grows.trans (.put notRoot free rfl)
      · rwa [same]

theorem makeDirectories_grows (t : FileTree) (current : Location) (p : Path) :
    t.Grows (· = .directory) (t.makeDirectories current p).2 :=
  makeLineage_grows t current p.lineage

theorem lineage_eq_cons (p : Path) : ∃ above, p.lineage = p :: above := by
  rw [Path.lineage]
  cases p.parts.length with
  | zero => exact ⟨[], rfl⟩
  | succ fuel => exact ⟨_, rfl⟩

theorem contains_of_makeDirectories (made : t.makeDirectories current p = (.ok (), t'))
    (notEmpty : p.isEmpty = false) : t'.contains current p = true := by
  obtain ⟨above, lineage⟩ := lineage_eq_cons p
  rw [makeDirectories, lineage] at made
  obtain ⟨before, -, last⟩ := makeLineage_cons t current p above
  rw [made] at last
  obtain last | ⟨rfl, settled⟩ := last
  · obtain ⟨place, -, -, -, found⟩ := makeDirectory_eq_ok last
    exact contains_iff.2 ⟨_, found⟩
  · obtain ⟨place, found⟩ := isDirectory_iff.1 ((settled rfl).resolve_left (by simp [notEmpty]))
    exact contains_iff.2 ⟨_, found⟩

theorem makeDirectories_of_isEmpty (empty : p.isEmpty = true) :
    t.makeDirectories current p = (.ok (), t) := by
  obtain ⟨above, lineage⟩ := lineage_eq_cons p
  rw [makeDirectories, lineage, makeLineage, if_pos empty]

/-- The parts before a final slash lead to the same directory. -/
theorem stat_directory {above : List String} (notEmpty : p.isEmpty = false)
    (parts : p.parts = above ∨ p.parts = above ++ [""]) :
    t.stat current p = .ok (dir, .directory) ↔
      t.follow (start current p) above = .ok dir ∧ t.at? dir = some .directory := by
  rw [stat_eq_ok, locate, if_neg (by simp [notEmpty])]
  refine and_congr_left fun isDirectory => ?_
  rcases parts with parts | parts
  · rw [parts]
  · rw [parts, follow_append]
    cases followed : t.follow (start current p) above with
    | error e => simp [Except.bind]
    | ok found =>
        simp only [Except.bind, follow, bind]
        cases checked : t.checkDirectory found with
        | error e =>
            simp only [reduceCtorEq, Except.ok.injEq, false_iff]
            rintro rfl
            simp [checkDirectory_eq_ok.2 isDirectory] at checked
        | ok _ => simp [Path.isVoid]

/-- A name below a path leads into the directory that the path leads to. -/
theorem locate_join {q : Path} {name : String} (relative : q.isAbsolute = false)
    (below : q.parts = [name]) (plain : Path.isVoid name = false) (notUp : name ≠ "..")
    (notEmpty : p.isEmpty = false) :
    t.locate current (p.join q) = .ok place ↔
      ∃ dir, t.stat current p = .ok (dir, .directory) ∧ place = name :: dir := by
  obtain ⟨above, joined, parts⟩ := Path.parts_join relative notEmpty
  have start : start current (p.join q) = start current p := by
    rw [FileTree.start, FileTree.start, Path.isAbsolute_join relative notEmpty]
  simp only [stat_directory notEmpty parts]
  rw [locate, if_neg (by simp [Path.isEmpty_join relative notEmpty]), start, joined, below,
    follow_append]
  cases followed : t.follow (FileTree.start current p) above with
  | error e => simp [Except.bind]
  | ok found =>
      simp only [Except.bind, Except.ok.injEq, and_assoc, exists_eq_left']
      constructor
      · intro located
        cases checked : t.checkDirectory found with
        | error e => simp [follow, checked, bind, Except.bind] at located
        | ok _ =>
            have isDirectory := checkDirectory_eq_ok.1 checked
            rw [follow_name plain notUp isDirectory] at located
            exact ⟨isDirectory, (Except.ok.inj located).symm⟩
      · rintro ⟨isDirectory, rfl⟩
        exact follow_name plain notUp isDirectory

end Registry.FileTree
