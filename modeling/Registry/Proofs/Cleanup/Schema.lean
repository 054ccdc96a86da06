import Registry.Proofs.Snapshot.Shape
import Registry.Settings.Check

/-! # Schemas

The snapshot that a cleanup asks for, and what distinct names are good for.
-/

namespace Registry

namespace GraphSpec

theorem loaders_addRelation (spec : GraphSpec) (relation : String) :
    (spec.addRelation relation).loaders = spec.loaders := by
  unfold addRelation
  split <;> rfl

theorem loadLinks_addRelation (spec : GraphSpec) (relation : String) :
    (spec.addRelation relation).loadLinks = spec.loadLinks := by
  unfold addRelation
  split <;> rfl

theorem mem_relations_addRelation {spec : GraphSpec} {relation other : String} :
    other ∈ (spec.addRelation relation).relations ↔ other ∈ spec.relations ∨ other = relation := by
  unfold addRelation
  split
  · rename_i old
    have member : relation ∈ spec.relations := by simpa using old
    constructor
    · exact .inl
    · rintro (kept | rfl)
      · exact kept
      · exact member
  · simp

theorem foldl_addRelation (relations : List String) :
    ∀ spec : GraphSpec,
      (relations.foldl addRelation spec).loaders = spec.loaders ∧
        (relations.foldl addRelation spec).loadLinks = spec.loadLinks ∧
        ∀ other, other ∈ (relations.foldl addRelation spec).relations ↔
          other ∈ spec.relations ∨ other ∈ relations := by
  induction relations with
  | nil => simp
  | cons relation rest ih =>
      intro spec
      obtain ⟨loaders, loadLinks, members⟩ := ih (spec.addRelation relation)
      rw [loaders_addRelation] at loaders
      rw [loadLinks_addRelation] at loadLinks
      refine ⟨loaders, loadLinks, fun other => ?_⟩
      rw [List.foldl_cons, members, mem_relations_addRelation, List.mem_cons, or_assoc]

end GraphSpec

namespace Cleanup

theorem loaders_spec (scope : ScopeId) (schema : Schema) :
    (spec scope schema).loaders = [{ types := .ofList schema.types, scope := some scope }] :=
  (GraphSpec.foldl_addRelation _ _).1

/-- Just the relations of the schema become edges. -/
theorem accepts_spec_iff {scope : ScopeId} {schema : Schema} {relation : String} :
    (spec scope schema).filter.normalized.accepts relation = true ↔
      relation ∈ schema.relations := by
  obtain ⟨-, loadLinks, members⟩ := GraphSpec.foldl_addRelation schema.relations
    (GraphSpec.addLoader {} { types := .ofList schema.types, scope := some scope })
  have asked : ∀ other, other ∈ (spec scope schema).relations ↔ other ∈ schema.relations := by
    intro other
    rw [spec, members]
    simp [GraphSpec.addLoader]
  have loads : (spec scope schema).loadLinks = true := loadLinks
  have some : (spec scope schema).relations ≠ [] :=
    List.ne_nil_of_mem ((asked schema.scenarioAsset).2 List.mem_cons_self)
  rw [RelationFilter.accepts_normalized, GraphSpec.filter, loads]
  simp only [Bool.not_true, Bool.false_eq_true, if_false, List.isEmpty_iff, if_neg some]
  rw [RelationFilter.accepts_ofRelations_iff, asked]

end Cleanup

namespace Settings

theorem distinct_of_firstFault {named : List (Key × String)} :
    ∀ {seen : List String}, firstFault seen named = .ok () →
      (named.map (·.2)).Nodup ∧ ∀ name ∈ named.map (·.2), name ∉ seen := by
  induction named with
  | nil => simp
  | cons entry rest ih =>
      intro seen valid
      obtain ⟨key, name⟩ := entry
      rw [firstFault] at valid
      split at valid
      · cases valid
      · split at valid
        · cases valid
        · rename_i new
          obtain ⟨once, unseen⟩ := ih valid
          have fresh : name ∉ seen := by simpa using new
          constructor
          · exact List.nodup_cons.2 ⟨fun again => unseen name again List.mem_cons_self, once⟩
          · intro other member
            rcases List.mem_cons.1 member with rfl | later
            · exact fresh
            · exact fun old => unseen other later (List.mem_cons_of_mem _ old)

theorem nodup_types_of_checkSchema {schema : Cleanup.Schema} (valid : checkSchema schema = .ok ()) :
    schema.types.Nodup := by
  rw [checkSchema] at valid
  cases types : firstFault [] [(.assetType, schema.assetType),
      (.scenarioType, schema.scenarioType), (.controlType, schema.controlType),
      (.vulnerabilityType, schema.vulnerabilityType)] with
  | error e =>
      rw [types] at valid
      cases valid
  | ok =>
      exact (distinct_of_firstFault types).1

end Settings
end Registry
