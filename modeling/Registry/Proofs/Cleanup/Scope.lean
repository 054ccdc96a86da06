import Registry.Proofs.Cleanup.Forecast

/-! # Scope of a cleanup

A cleanup asks for elements of its scope only. Each of them is removed with all that is inside it,
whatever scope that belongs to; every other element of another scope keeps its rows, also when the
run is cut short.
-/

namespace Registry

namespace Tables

variable {t left : Tables} {tops : List ElementId}

theorem Below.trans {top middle id : ElementId} (upper : t.Below top middle)
    (lower : t.Below middle id) : t.Below top id := by
  induction lower with
  | top => exact upper
  | child stored up _ ih => exact .child stored up ih

/-- Naming an element that is below a top makes no difference. -/
theorem belowAny_concat_of_belowAny {top id : ElementId} (inside : t.BelowAny tops top) :
    t.BelowAny (tops ++ [top]) id ↔ t.BelowAny tops id := by
  rw [belowAny_concat, or_iff_left_of_imp]
  intro below
  obtain ⟨above, member, upper⟩ := inside
  exact ⟨above, member, upper.trans below⟩

/-- An element has the same rows in two tables, links aside. -/
structure SameRows (t left : Tables) (id : ElementId) : Prop where
  elements : left.elements.filter (·.id == id) = t.elements.filter (·.id == id)
  properties : left.properties.filter (·.element == id) = t.properties.filter (·.element == id)
  permissions : left.permissions.filter (·.element == id) = t.permissions.filter (·.element == id)

theorem sameRows_without {ids : List ElementId} {id : ElementId} (kept : id ∉ ids) :
    t.SameRows (t.without ids) id := by
  constructor <;>
    · simp only [without, List.filter_filter]
      refine List.filter_congr fun row _ => ?_
      rw [Bool.eq_iff_iff]
      simp only [Bool.and_eq_true, beq_iff_eq, and_iff_left_iff_imp]
      rintro rfl
      simpa using kept

/-- Of the elements that are stored, just those that are not below a top keep their rows. -/
theorem Pruned.sameRows_iff (pruned : t.Pruned tops left) {id : ElementId} (stored : t.Holds id) :
    t.SameRows left id ↔ ¬ t.BelowAny tops id := by
  constructor
  · intro same
    obtain ⟨row, member, rfl⟩ := stored
    have found : row ∈ left.elements.filter (·.id == row.id) := by
      rw [same.elements]
      simpa using member
    exact (pruned.mem_elements.1 (List.mem_of_mem_filter found)).2
  · intro kept
    obtain ⟨ids, gone, rfl⟩ := pruned
    exact sameRows_without ((gone id).not.2 kept)

/-- Requests that tables grant take out the subtrees of their elements. -/
theorem Pruned.of_grants {made : List Mutation} {after : Tables}
    (granted : Service.tables.Grants made left after) :
    ∀ {tops : List ElementId}, t.Pruned tops left →
      t.Pruned (tops ++ made.map (·.element)) after := by
  induction granted with
  | nil => intro tops pruned; simpa using pruned
  | @cons m done rest left between after answered _ ih =>
      intro tops pruned
      rw [List.map_cons, List.append_cons]
      refine ih ?_
      have state : (left.remove m.element).2 = between := by
        rw [← Service.state_tables, answered]
      by_cases stored : left.Holds m.element
      · rw [remove_of_holds stored] at state
        rw [← state]
        exact pruned.snoc (pruned.holds_iff.1 stored).2
      · simp only [Service.tables, remove_of_not_holds stored] at answered
        cases answered

/-- Of stored elements, one is refused only if it is inside one that was removed before. -/
theorem Pruned.of_refuses {made before : List Mutation} {m : Mutation} {error : CommandError}
    {after : Tables} (stored : ∀ m ∈ made, t.Holds m.element)
    (refuses : Service.tables.Refuses made t before m error after) :
    t.Pruned ((before ++ [m]).map (·.element)) after := by
  obtain ⟨isPrefix, between, granted, refused⟩ := refuses
  have pruned : t.Pruned (before.map (·.element)) between := .of_grants granted (.nil t)
  have missing : ¬ between.Holds m.element := by
    intro found
    simp only [Service.tables, remove_of_holds found] at refused
    cases refused
  -- it was stored at first, so an earlier request has taken it out
  have inside : t.BelowAny (before.map (·.element)) m.element := by
    by_contra apart
    exact missing (pruned.holds_iff.2 ⟨stored m (isPrefix.subset (by simp)), apart⟩)
  obtain ⟨ids, gone, rfl⟩ := pruned
  refine ⟨ids, fun id => ?_, Service.eq_of_tables_refuse refused⟩
  rw [gone, List.map_append, List.map_singleton, belowAny_concat_of_belowAny inside]

end Tables

namespace Cleanup

variable {t : Tables} {scope : ScopeId} {schema : Schema}

/-- A run on tables, cut short or not, takes out the subtrees of what it asks for. -/
theorem pruned_of_runOn (scope : ScopeId) (g : Snapshot)
    (stored : ∀ request ∈ requests g schema, t.Holds request.id) :
    ∃ asked, asked <+: (requests g schema).map Request.mutation ∧
      runOn Service.tables.logged scope schema g (t, []) =
        ((runOn Service.tables scope schema g t).1, (runOn Service.tables scope schema g t).2,
          asked) ∧
      t.Pruned (asked.map (·.element)) (runOn Service.tables scope schema g t).2 := by
  obtain ⟨asked, isPrefix, logged⟩ := runOn_logged Service.tables scope schema g t
  refine ⟨asked, isPrefix, logged, ?_⟩
  have foretold := foretells Service.tables Service.echoes_tables scope schema g t
  have planned : ∀ m ∈ (requests g schema).map Request.mutation, t.Holds m.element := by
    intro m member
    obtain ⟨request, isRequested, rfl⟩ := List.mem_map.1 member
    exact stored request isRequested
  rcases foretold.outcomes with ⟨after, granted⟩ | ⟨before, m, error, after, refuses⟩
  · obtain ⟨report, ran, -⟩ := foretold.granted after granted
    simp only [logged, Prod.mk.injEq] at ran
    obtain ⟨-, left, all⟩ := ran
    rw [left, all]
    exact .of_grants granted (.nil t)
  · have ran := foretold.refused before m error after refuses
    simp only [logged, Prod.mk.injEq] at ran
    obtain ⟨-, left, made⟩ := ran
    rw [left, made]
    exact .of_refuses planned refuses

theorem row_of_mem_requests (keyed : t.Keyed) {request : Request}
    (member : request ∈ requests (graph t scope schema) schema) :
    ∃ row ∈ t.elements, row.id = request.id ∧ schema.Covers scope row :=
  (mem_ids_graph_iff keyed).1
    (List.mem_map_of_mem (mem_nodes_of_mem_requests (wellFormed_graph t scope schema) member))

/-- A cleanup of tables asks for elements of its scope only. An element of another scope keeps its
    row, its properties and its permissions iff it is not inside one of those asked for. The run may
    succeed or fail. -/
theorem execute_keeps_iff (keyed : t.Keyed) (scope : ScopeId) (schema : Schema) (usage : Usage) :
    ∃ answer left asked spent,
      execute Source.tables Service.tables scope schema ⟨t, usage⟩ = (answer, ⟨left, spent⟩) ∧
      execute Source.tables.left Service.tables.logged scope schema ⟨(t, []), usage⟩ =
        (answer, ⟨(left, asked), spent⟩) ∧
      (∀ m ∈ asked, ∃ row ∈ t.elements, row.id = m.element ∧ row.scope = some scope) ∧
      ∀ row ∈ t.elements, row.scope ≠ some scope →
        (t.SameRows left row.id ↔ ¬ t.BelowAny (asked.map (·.element)) row.id) := by
  obtain ⟨spent, built⟩ :=
    Tables.build_tables keyed (spec scope schema).loaders (spec scope schema).filter usage
  obtain ⟨asked, isPrefix, logged, pruned⟩ := pruned_of_runOn scope
    (graph t scope schema) (holds_of_mem_requests keyed scope schema)
  refine ⟨(runOn Service.tables scope schema (graph t scope schema) t).1,
    (runOn Service.tables scope schema (graph t scope schema) t).2, asked, spent, ?_, ?_, ?_, ?_⟩
  · simp only [execute, GraphCommand.execute, command, built, graph]
  · exact (execute_of_built Service.tables built).trans (by rw [← graph, logged])
  · intro m member
    obtain ⟨request, isRequested, rfl⟩ := List.mem_map.1 (isPrefix.subset member)
    obtain ⟨row, stored, sameId, -, inScope⟩ := row_of_mem_requests keyed isRequested
    exact ⟨row, stored, sameId, inScope⟩
  · intro row stored _
    exact pruned.sameRows_iff ⟨row, stored, rfl⟩

/-- A control of one scope, linked to an orphan, and inside it an asset of another scope. -/
def assetOfOtherScope : Dataset where
  elements := [
    { id := 1, typeId := "incident_scenario", scope := some 1, title := "S" },
    { id := 2, typeId := "control", scope := some 1, title := "C" },
    { id := 3, typeId := "asset", scope := some 2, parent := some 2, title := "A",
      properties := TextMap.empty.insert "asset" (TextMap.empty.insert "name" "server"),
      permissions := [⟨"owner", true, true⟩] }]
  links := [⟨2, 1, "rel_control_incscen", none⟩]

/-- The tables after its import. -/
def assetOfOtherScopeTables : Tables :=
  (Tables.fresh.importDataset assetOfOtherScope).2

theorem reachable_assetOfOtherScopeTables : assetOfOtherScopeTables.Reachable :=
  .importDataset .fresh assetOfOtherScope

theorem execute_keeps_iff_assetOfOtherScope :
    assetOfOtherScopeTables.Keyed ∧
      ∃ answer left asked spent,
        execute Source.tables Service.tables 1 {} ⟨assetOfOtherScopeTables, {}⟩ =
          (answer, ⟨left, spent⟩) ∧
        execute Source.tables.left Service.tables.logged 1 {} ⟨(assetOfOtherScopeTables, []), {}⟩ =
          (answer, ⟨(left, asked), spent⟩) ∧
        (∀ m ∈ asked, ∃ row ∈ assetOfOtherScopeTables.elements,
          row.id = m.element ∧ row.scope = some 1) ∧
        ∀ row ∈ assetOfOtherScopeTables.elements, row.scope ≠ some 1 →
          (assetOfOtherScopeTables.SameRows left row.id ↔
            ¬ assetOfOtherScopeTables.BelowAny (asked.map (·.element)) row.id) :=
  have keyed := reachable_assetOfOtherScopeTables.keyed
  ⟨keyed, execute_keeps_iff keyed 1 {} {}⟩

/-- Cleaning up the one scope, the asset of the other goes with its property and permission. -/
theorem execute_removes_assetOfOtherScope :
    assetOfOtherScopeTables.Reachable ∧ Settings.checkSchema {} = .ok () ∧
      ⟨3, "element-3", "asset", some 2, some 2, 0, "A"⟩ ∈ assetOfOtherScopeTables.elements ∧
      ⟨3, "asset", ⟨"name", "server"⟩⟩ ∈ assetOfOtherScopeTables.properties ∧
      ⟨3, ⟨"owner", true, true⟩⟩ ∈ assetOfOtherScopeTables.permissions ∧
      ∃ report left,
        execute Source.tables Service.tables 1 {} ⟨assetOfOtherScopeTables, {}⟩ =
          (.ok report, left) ∧
        left.state.elements = [] ∧ left.state.properties = [] ∧ left.state.permissions = [] := by
  refine ⟨reachable_assetOfOtherScopeTables, by decide, by decide +kernel, by decide +kernel,
    by decide +kernel, ⟨1, 1, [1],
      [⟨2, "control", "C", 1, some 2⟩, ⟨1, "incident_scenario", "S", 1, some 1⟩]⟩,
    (execute Source.tables Service.tables 1 {} ⟨assetOfOtherScopeTables, {}⟩).2,
    Prod.ext ?_ rfl, ?_, ?_, ?_⟩ <;> decide +kernel

end Cleanup
end Registry
