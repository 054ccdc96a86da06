import Registry.Proofs.Binary64
import Registry.Proofs.Retrieval.Mirrored

/-! # Counting what a retrieval does

A retrieval counts the elements it looks at and the calls it makes. Held against a record of these
calls and of their answers the counters are right after every run, however the source answers.
-/

namespace Registry

variable {σ : Type}

namespace Source

/-- One use of a source, with its answer. -/
inductive Exchange where
  | query (types : List String) (scope : Option ScopeId) (answer : Except StoreError (List Element))
  | fetch (id : ElementId) (facets : FacetSet) (answer : Except StoreError Element)
  | fetchMany (ids : List ElementId) (facets : FacetSet)
      (answer : Except StoreError (List Element))

/-- It asked for facets, and not which elements there are. -/
def Exchange.isFetch : Exchange → Bool
  | .query .. => false
  | .fetch .. | .fetchMany .. => true

/-- It was not refused, and brought as many elements as were asked for. A query does not say how
    many it wants, and counts for nothing. -/
def Exchange.Met : Exchange → Prop
  | .query .. => True
  | .fetch _ _ answer => ∃ e, answer = .ok e
  | .fetchMany ids _ answer => ∃ elements, answer = .ok elements ∧ elements.length = ids.length

/-- The same source, with a record of all that was asked and answered so far. -/
def recorded (source : Source σ) : Source (σ × List Exchange) where
  query types scope s :=
    let (answer, state) := source.query types scope s.1
    (answer, state, s.2 ++ [.query types scope answer])
  fetch id facets s :=
    let (answer, state) := source.fetch id facets s.1
    (answer, state, s.2 ++ [.fetch id facets answer])
  fetchMany ids facets s :=
    let (answer, state) := source.fetchMany ids facets s.1
    (answer, state, s.2 ++ [.fetchMany ids facets answer])

variable (source : Source σ) (s : σ × List Exchange)

theorem query_recorded (types : List String) (scope : Option ScopeId) :
    source.recorded.query types scope s =
      ((source.query types scope s.1).1, (source.query types scope s.1).2,
        s.2 ++ [.query types scope (source.query types scope s.1).1]) :=
  rfl

theorem fetch_recorded (id : ElementId) (facets : FacetSet) :
    source.recorded.fetch id facets s =
      ((source.fetch id facets s.1).1, (source.fetch id facets s.1).2,
        s.2 ++ [.fetch id facets (source.fetch id facets s.1).1]) :=
  rfl

theorem fetchMany_recorded (ids : List ElementId) (facets : FacetSet) :
    source.recorded.fetchMany ids facets s =
      ((source.fetchMany ids facets s.1).1, (source.fetchMany ids facets s.1).2,
        s.2 ++ [.fetchMany ids facets (source.fetchMany ids facets s.1).1]) :=
  rfl

theorem mirrors_recorded : source.Mirrors source.recorded Prod.fst where
  query _ _ _ := rfl
  fetch _ _ _ := rfl
  fetchMany _ _ _ := rfl

end Source

open Source (Exchange)

/-- The counters say what the exchanges say. An element that is looked at is a hit or is asked for,
    and it is brought unless its exchange failed. -/
structure Usage.Truthful (usage : Usage) (exchanges : List Exchange) : Prop where
  fetches : usage.fetches = exchanges.countP Exchange.isFetch
  hits_le : usage.hits ≤ usage.checks
  fetches_le : usage.fetches ≤ usage.checks - usage.hits
  elementsFetched_le : usage.elementsFetched ≤ usage.checks - usage.hits
  elementsFetched_eq_iff : usage.elementsFetched = usage.checks - usage.hits ↔
    ∀ exchange ∈ exchanges, exchange.Met

namespace Usage.Truthful

theorem nil : Truthful {} [] := by
  constructor <;> simp

theorem append {usage spent : Usage} {before new : List Exchange} (first : usage.Truthful before)
    (second : spent.Truthful new) : (usage.add spent).Truthful (before ++ new) := by
  obtain ⟨fetches, hits_le, fetches_le, elementsFetched_le, met⟩ := first
  obtain ⟨fetches', hits_le', fetches_le', elementsFetched_le', met'⟩ := second
  constructor
  · simp only [Usage.add, List.countP_append, fetches, fetches']
  · simp only [Usage.add]
    omega
  · simp only [Usage.add]
    omega
  · simp only [Usage.add]
    omega
  · rw [List.forall_mem_append, ← met, ← met']
    simp only [Usage.add]
    omega

end Usage.Truthful

namespace Retrieval

/-- The counters and the record of a retrieval agree. -/
def Honest (r : Retrieval (σ × List Exchange)) : Prop :=
  r.usage.Truthful r.state.2

variable (source : Source σ) {r : Retrieval (σ × List Exchange)}

theorem honest_ensure (honest : r.Honest) (e : Element) (facets : FacetSet) :
    (ensure source.recorded e facets r).2.Honest := by
  simp only [ensure, Source.fetch_recorded]
  split
  · have hit : Usage.Truthful { checks := 1, hits := 1 } [] := by
      constructor <;> simp
    simpa [Honest, record] using honest.append hit
  · rcases source.fetch e.id (e.missing facets) r.state.1 with ⟨cause | fresh, state⟩
    · have refused : Usage.Truthful { checks := 1, fetches := 1 }
          [.fetch e.id (e.missing facets) (.error cause)] := by
        constructor <;> simp [Exchange.isFetch, Exchange.Met]
      exact honest.append refused
    · have brought : Usage.Truthful { checks := 1, fetches := 1, elementsFetched := 1 }
          [.fetch e.id (e.missing facets) (.ok fresh)] := by
        constructor <;> simp [Exchange.isFetch, Exchange.Met]
      dsimp only
      split
      · exact honest.append brought
      · exact honest.append brought

theorem honest_ensureOrMark (honest : r.Honest) (e : Element) (facets : FacetSet) :
    (ensureOrMark source.recorded e facets r).2.Honest := by
  have ensured := honest_ensure source honest e facets
  simp only [ensureOrMark]
  rcases result : ensure source.recorded e facets r with ⟨error | loaded, after⟩
  · rwa [result] at ensured
  · rwa [result] at ensured

theorem honest_ensureAll (honest : r.Honest) (elements : List Element) (facets : FacetSet) :
    (ensureAll source.recorded elements facets r).2.Honest := by
  have fewer : ((pending elements facets).map (·.id)).length ≤ elements.length := by
    rw [List.length_map]
    exact List.length_filter_le _ _
  simp only [ensureAll, Source.fetchMany_recorded]
  generalize (pending elements facets).map (·.id) = ids at fewer ⊢
  split
  · rename_i none
    have allHits : Usage.Truthful
        { checks := elements.length, hits := elements.length - ids.length } [] := by
      have zero : ids.length = 0 := by simpa using none
      constructor <;> simp [zero]
    simpa [Honest, record] using honest.append allHits
  · rename_i some
    have positive : 0 < ids.length := List.length_pos_iff.2 (by simpa using some)
    rcases source.fetchMany ids (request elements facets) r.state.1 with ⟨cause | brought, state⟩
    · have refused : Usage.Truthful
          { checks := elements.length, hits := elements.length - ids.length, fetches := 1 }
          [.fetchMany ids (request elements facets) (.error cause)] := by
        constructor <;> simp [Exchange.isFetch, Exchange.Met] <;> omega
      exact honest.append refused
    · dsimp only
      split
      · rename_i enough
        have whole : Usage.Truthful
            { checks := elements.length, hits := elements.length - ids.length, fetches := 1,
              elementsFetched := brought.length }
            [.fetchMany ids (request elements facets) (.ok brought)] := by
          constructor <;> simp [Exchange.isFetch, Exchange.Met, enough] <;> omega
        simpa [Honest, record, Usage.add] using honest.append whole
      · rename_i wrong
        have useless : Usage.Truthful
            { checks := elements.length, hits := elements.length - ids.length, fetches := 1 }
            [.fetchMany ids (request elements facets) (.ok brought)] := by
          constructor <;> simp [Exchange.isFetch, Exchange.Met, wrong] <;> omega
        exact honest.append useless

theorem honest_selectNodes (loaders : List Loader) :
    ∀ (nodes : List Element) (r : Retrieval (σ × List Exchange)), r.Honest →
      (Snapshot.selectNodes source.recorded nodes loaders r).2.Honest := by
  induction loaders with
  | nil => intro nodes r honest; exact honest
  | cons loader rest ih =>
      intro nodes r honest
      have asked : ∀ answer, Usage.Truthful {} [.query loader.types.toList loader.scope answer] := by
        intro answer
        constructor <;> simp [Exchange.isFetch, Exchange.Met]
      simp only [Snapshot.selectNodes, Source.query_recorded]
      rcases source.query loader.types.toList loader.scope r.state.1 with ⟨cause | found, state⟩
      · exact honest.append (asked _)
      · exact ih _ _ (honest.append (asked _))

theorem honest_build (honest : r.Honest) (loaders : List Loader) (filter : RelationFilter) :
    (Snapshot.build source.recorded loaders filter r).2.Honest := by
  have selected := honest_selectNodes source loaders [] r honest
  simp only [Snapshot.build]
  rcases picked : Snapshot.selectNodes source.recorded [] loaders r with ⟨error | nodes, after⟩
  · rwa [picked] at selected
  · rw [picked] at selected
    dsimp only
    split
    · have ensured := honest_ensureAll source selected nodes .links
      rcases result : ensureAll source.recorded nodes .links after with ⟨error | nodes, after⟩
      · rwa [result] at ensured
      · rwa [result] at ensured
    · exact selected

/-! ## Runs -/

/-- What a retrieval is used for. -/
inductive Use where
  /-- Load facets of one element, whichever are asked for; `ensureParent` and the like name
      them. -/
  | ensure (e : Element) (facets : FacetSet)
  | ensureAll (elements : List Element) (facets : FacetSet)
  | ensureOrMark (e : Element) (facets : FacetSet)
  | build (loaders : List Loader) (filter : RelationFilter)

/-- The retrieval after a use, whether it succeeds or fails. -/
def Use.apply {τ : Type} (source : Source τ) (r : Retrieval τ) : Use → Retrieval τ
  | .ensure e facets => (Retrieval.ensure source e facets r).2
  | .ensureAll elements facets => (Retrieval.ensureAll source elements facets r).2
  | .ensureOrMark e facets => (Retrieval.ensureOrMark source e facets r).2
  | .build loaders filter => (Snapshot.build source loaders filter r).2

/-- The retrieval after some uses. -/
def after {τ : Type} (source : Source τ) (uses : List Use) (r : Retrieval τ) : Retrieval τ :=
  uses.foldl (Use.apply source) r

theorem honest_apply (honest : r.Honest) (use : Use) : (use.apply source.recorded r).Honest := by
  cases use with
  | ensure e facets => exact honest_ensure source honest e facets
  | ensureAll elements facets => exact honest_ensureAll source honest elements facets
  | ensureOrMark e facets => exact honest_ensureOrMark source honest e facets
  | build loaders filter => exact honest_build source honest loaders filter

theorem honest_after (honest : r.Honest) (uses : List Use) :
    (after source.recorded uses r).Honest :=
  List.foldlRecOn uses _ honest fun _ honest use _ => honest_apply source honest use

/-- A record of calls has no part in what a retrieval does. -/
theorem after_recorded (uses : List Use) :
    ∀ r : Retrieval (σ × List Exchange),
      after source uses (r.imaged Prod.fst) = (after source.recorded uses r).imaged Prod.fst := by
  have mirrors := source.mirrors_recorded
  induction uses with
  | nil => intro r; rfl
  | cons use rest ih =>
      intro r
      have step : use.apply source (r.imaged Prod.fst) =
          (use.apply source.recorded r).imaged Prod.fst := by
        cases use with
        | ensure e facets => simp only [Use.apply, mirrors.ensure]
        | ensureAll elements facets => simp only [Use.apply, mirrors.ensureAll]
        | ensureOrMark e facets => simp only [Use.apply, mirrors.ensureOrMark]
        | build loaders filter => simp only [Use.apply, mirrors.build]
      simp only [after, List.foldl_cons, step]
      exact ih _

end Retrieval

namespace Usage

theorem hitRate_bounds {usage : Usage} (le : usage.hits ≤ usage.checks)
    (small : usage.checks < 2 ^ 64) : 0 ≤ usage.hitRate ∧ usage.hitRate ≤ 1 := by
  rw [hitRate]
  split
  · decide
  · rename_i looked
    exact Binary64.share_bounds le looked small

end Usage

namespace Retrieval

/-- After every run over a source its counters agree with what the source was asked and answered,
    and the hit rate of checks that fit 64 bits is a number from zero to one. -/
theorem truthful_after (source : Source σ) (s : σ) (uses : List Use) :
    ∃ exchanges, after source.recorded uses { state := (s, []) } =
        { state := ((after source uses { state := s }).state, exchanges)
          usage := (after source uses { state := s }).usage } ∧
      (after source uses { state := s }).usage.Truthful exchanges ∧
      ((after source uses { state := s }).usage.checks < 2 ^ 64 →
        0 ≤ (after source uses { state := s }).usage.hitRate ∧
          (after source uses { state := s }).usage.hitRate ≤ 1) := by
  have start : Honest { state := (s, ([] : List Exchange)) } := .nil
  have honest := honest_after source start uses
  have same := after_recorded source uses { state := (s, []) }
  have plain : after source uses { state := s } =
      (after source.recorded uses { state := (s, []) }).imaged Prod.fst := same
  rw [plain]
  exact ⟨_, rfl, honest, Usage.hitRate_bounds honest.hits_le⟩

/-- A rack that was seen with nothing but its own row. -/
def seenRack : Element :=
  { id := 1, uuid := "element-1", typeId := "rack", scope := none, title := "" }

/-- Links of a rack that is gone cannot be had; then nothing at all is asked of it. -/
theorem truthful_after_missing :
    let usage := (after Source.tables [.ensure seenRack .links, .ensureOrMark seenRack .empty]
      { state := {} }).usage
    (usage.checks = 2 ∧ usage.hits = 1 ∧ usage.fetches = 1) ∧
      0 ≤ usage.hitRate ∧ usage.hitRate ≤ 1 := by
  obtain ⟨_, -, -, rate⟩ := truthful_after Source.tables {}
    [.ensure seenRack .links, .ensureOrMark seenRack .empty]
  exact ⟨by decide, rate (by decide)⟩

end Retrieval
end Registry
