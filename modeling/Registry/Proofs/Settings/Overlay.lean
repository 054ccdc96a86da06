import Registry.Proofs.Settings.Init
import Registry.Proofs.Settings.Precedence
import Registry.Proofs.Settings.Saved

/-! # The laws of laying settings over each other

Settings are made of their values, so each law comes down to which layer covers a key. Only over the
default settings may a storage path come out written in another way.
-/

namespace Registry.Settings

variable {s s' s'' lower lower' upper upper' : Settings}

/-- Settings with the same values are the same. -/
theorem ext_value? (alike : ∀ k, s.value? k = s'.value? k) : s = s' := by
  -- Settings are completed from their draft, and that is made of their values.
  rw [← Draft.complete_draft s, ← Draft.complete_draft s', draft, draft, funext alike]

theorem covering?_overlay (lower upper : Settings) (k : Key) :
    (overlay lower upper).covering? k = (upper.covering? k <|> lower.covering? k) := by
  rw [covering?, value?_overlay]
  cases covers : upper.covering? k with
  | none => rfl
  | some value =>
      obtain ⟨-, kept⟩ := Option.filter_eq_some_iff.1 covers
      simp [Option.filter, kept]

theorem overlay_assoc (lower middle upper : Settings) :
    overlay (overlay lower middle) upper = overlay lower (overlay middle upper) := by
  refine ext_value? fun k => ?_
  rw [value?_overlay, value?_overlay, value?_overlay, covering?_overlay]
  simp [Option.or_assoc]

/-- Of settings laid over each other, the last ones that cover a key prevail. -/
theorem value?_foldl_overlay (layers : List Settings) (k : Key) :
    (layers.foldl overlay {}).value? k =
      (layers.reverse.findSome? (·.covering? k) <|> Settings.value? {} k) := by
  have stacked := Layers.value?_stack (layers.map some) k
  rw [← List.map_reverse, List.findSome?_map, Layers.stack, List.filterMap_map] at stacked
  simpa [Function.comp_def] using stacked

theorem Same.symm (same : Same s s') : Same s' s :=
  ⟨Path.same_comm ▸ same.dataDir, Path.same_comm ▸ same.database, same.cleanup.symm,
    same.logging.symm⟩

theorem Same.trans (same : Same s s') (same' : Same s' s'') : Same s s'' :=
  ⟨Path.same_trans same.dataDir same'.dataDir, Path.same_trans same.database same'.database,
    same.cleanup.trans same'.cleanup, same.logging.trans same'.logging⟩

theorem same_equivalence : Equivalence Same :=
  ⟨Same.refl, Same.symm, Same.trans⟩

theorem choosePath_congr {default lower lower' upper upper' : Path}
    (below : lower.same lower' = true) (above : upper.same upper' = true) :
    (choosePath default lower upper).same (choosePath default lower' upper') = true := by
  rw [choosePath, choosePath, Path.same_congr above]
  split
  · exact below
  · exact above

theorem overlay_congr (below : Same lower lower') (above : Same upper upper') :
    Same (overlay lower upper) (overlay lower' upper') where
  dataDir := choosePath_congr below.dataDir above.dataDir
  database := choosePath_congr below.database above.database
  cleanup := congrArg₂ overlaySchema below.cleanup above.cleanup
  logging := congrArg₂ Logging.overlay below.logging above.logging

/-- Layers come to the same in any grouping, the default settings make no difference below or above
    others, and of a list of layers the last one that covers a key prevails. -/
theorem overlay_monoid :
    (∀ a b c : Settings, overlay (overlay a b) c = overlay a (overlay b c)) ∧
    (∀ a : Settings, overlay a {} = a ∧ Same (overlay {} a) a) ∧
    (Equivalence Same ∧ ∀ a a' b b' : Settings, Same a a' → Same b b' →
      Same (overlay a b) (overlay a' b')) ∧
    ∀ (layers : List Settings) (k : Key),
      (layers.foldl overlay {}).value? k =
        (layers.reverse.findSome? (·.covering? k) <|> Settings.value? {} k) :=
  ⟨overlay_assoc, fun a => ⟨overlay_default a, overlay_same (.inl rfl)⟩,
    ⟨same_equivalence, fun _ _ _ _ => overlay_congr⟩, value?_foldl_overlay⟩

/-- A path that is written in another way is not kept as it was written. -/
example : overlay {} { storage := { dataDir := ⟨".scopegraph/"⟩ } } = {} := by
  decide

end Registry.Settings
