import Registry.Proofs.Cleanup.Orphans
import Registry.Proofs.Cleanup.Schema
import Registry.Proofs.Retrieval.Mirrored
import Registry.Proofs.Snapshot.Stored

/-! # Cleanup of tables

The graph that a cleanup of tables works on, told from their rows and links. A run and a dry run
on the same tables have the same graph, and so the same plan.
-/

namespace Registry.Cleanup

variable {t : Tables} {scope : ScopeId} {schema : Schema}

/-- The graph that a cleanup of the tables works on. -/
def graph (t : Tables) (scope : ScopeId) (schema : Schema) : Snapshot :=
  t.snapshot (spec scope schema).loaders (spec scope schema).filter

/-- The cleanup looks at the row. -/
def Schema.Covers (schema : Schema) (scope : ScopeId) (row : ElementRow) : Prop :=
  row.typeId ∈ schema.types ∧ row.scope = some scope

theorem selects_spec_iff {row : ElementRow} :
    (∃ loader ∈ (spec scope schema).loaders, loader.Selects row) ↔ schema.Covers scope row := by
  have some : (TextSet.ofList schema.types).toList ≠ [] :=
    List.ne_nil_of_mem (TextSet.mem_ofList.2 (List.mem_cons_self : schema.assetType ∈ schema.types))
  simp [loaders_spec, Loader.Selects, Schema.Covers, some, TextSet.mem_ofList]

theorem wellFormed_graph (t : Tables) (scope : ScopeId) (schema : Schema) :
    (graph t scope schema).WellFormed :=
  Tables.wellFormed_snapshot t _ _

theorem mem_ids_graph_iff (keyed : t.Keyed) {id : ElementId} :
    id ∈ (graph t scope schema).ids ↔
      ∃ row ∈ t.elements, row.id = id ∧ schema.Covers scope row := by
  simp only [graph, Tables.mem_ids_snapshot_iff keyed, selects_spec_iff]

theorem mem_edges_graph_iff (keyed : t.Keyed) {edge : Edge} :
    edge ∈ (graph t scope schema).edges ↔
      (∃ link ∈ t.links, Edge.ofLink link = edge) ∧ edge.relation ∈ schema.relations ∧
        edge.source ∈ (graph t scope schema).ids ∧ edge.target ∈ (graph t scope schema).ids := by
  simp only [graph, Tables.mem_edges_snapshot keyed, accepts_spec_iff]

/-- Nodes of a type of the schema are the rows of this type and scope. -/
theorem mem_ofType_graph_iff (keyed : t.Keyed) {typeId : String} (known : typeId ∈ schema.types)
    {e : Element} :
    e ∈ (graph t scope schema).ofType typeId ↔
      ∃ row ∈ t.elements, row.typeId = typeId ∧ row.scope = some scope ∧
        t.node (spec scope schema).filter row = e := by
  rw [mem_ofType_iff, graph, Tables.nodes_snapshot keyed, List.mem_map]
  simp only [Tables.mem_chosen_iff keyed, selects_spec_iff, Schema.Covers]
  constructor
  · rintro ⟨⟨row, ⟨stored, -, inScope⟩, rfl⟩, sameType⟩
    exact ⟨row, stored, by simpa using sameType, inScope, rfl⟩
  · rintro ⟨row, stored, rfl, inScope, rfl⟩
    exact ⟨⟨row, ⟨stored, known, inScope⟩, rfl⟩, by simp⟩

theorem holds_of_mem_requests (keyed : t.Keyed) (scope : ScopeId) (schema : Schema) :
    ∀ request ∈ requests (graph t scope schema) schema, t.Holds request.id := by
  intro request member
  have node := mem_nodes_of_mem_requests (wellFormed_graph t scope schema) member
  obtain ⟨row, stored, sameId, -⟩ :=
    (mem_ids_graph_iff keyed).1 (List.mem_map_of_mem node)
  exact ⟨row, stored, sameId⟩

/-- Building the graph does not fail, so that a cleanup of tables is a run on their graph. -/
theorem execute_tables (keyed : t.Keyed) (service : Service Tables) (scope : ScopeId)
    (schema : Schema) (usage : Usage) :
    ∃ spent, execute Source.tables service scope schema ⟨t, usage⟩ =
      ((runOn service scope schema (graph t scope schema) t).1,
        ⟨(runOn service scope schema (graph t scope schema) t).2, spent⟩) := by
  obtain ⟨spent, built⟩ :=
    Tables.build_tables keyed (spec scope schema).loaders (spec scope schema).filter usage
  refine ⟨spent, ?_⟩
  simp only [execute, GraphCommand.execute, command, built, graph]

theorem carryOut_right {σ τ : Type} (service : Service τ) (requests : List Request) (s : σ) :
    ∀ (removed : List Removed) (x : τ),
      carryOut service.right requests removed (s, x) =
        ((carryOut service requests removed x).1, s, (carryOut service requests removed x).2) := by
  induction requests with
  | nil => intro removed x; rfl
  | cons request rest ih =>
      intro removed x
      have step : service.right.execute request.mutation (s, x) =
          ((service.execute request.mutation x).1, s, (service.execute request.mutation x).2) := rfl
      simp only [carryOut, step]
      rcases service.execute request.mutation x with ⟨error | done, after⟩
      · rfl
      · exact ih _ after

/-- Ids that a dry run on the tables takes note of, in order. -/
def previewed (t : Tables) (scope : ScopeId) (schema : Schema) : List ElementId :=
  let (_, r) := execute Source.tables.left Service.dryRun.right scope schema { state := (t, []) }
  r.state.2.map (·.element)

theorem previewed_eq (keyed : t.Keyed) (scope : ScopeId) (schema : Schema) :
    previewed t scope schema = (requests (graph t scope schema) schema).map Request.id := by
  obtain ⟨spent, built⟩ :=
    Tables.build_tables keyed (spec scope schema).loaders (spec scope schema).filter {}
  have beside := Snapshot.build_left Source.tables (spec scope schema).loaders
    (spec scope schema).filter { state := t } ([] : List Mutation)
  rw [built] at beside
  simp only [previewed, execute, GraphCommand.execute, command]
  rw [show ({ state := (t, []) } : Retrieval (Tables × List Mutation)) =
    Retrieval.beside { state := t } [] from rfl, beside]
  simp only [Retrieval.beside, state_runOn, carryOut_right, carryOut_dryRun, graph]
  simp [Request.mutation, Mutation.remove, Request.id, Function.comp_def]

end Registry.Cleanup
