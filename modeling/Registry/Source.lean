import Registry.Tables

/-! # Element sources

What a retrieval needs of a store: three read operations, each of which may fail and may change
the state of the store. Nothing is promised about their answers.
-/

namespace Registry

/-- The read operations of a store with states in `σ`. -/
structure Source (σ : Type) where
  /-- Elements of the given types (none means any) in the given scope (none means any). -/
  query : List String → Option ScopeId → σ → Except StoreError (List Element) × σ
  /-- The element with an id, with the facets asked for. -/
  fetch : ElementId → FacetSet → σ → Except StoreError Element × σ
  /-- Several elements at once, in the order of their ids. -/
  fetchMany : List ElementId → FacetSet → σ → Except StoreError (List Element) × σ

namespace Source

variable {σ : Type}

/-- Fetch one element after the other, up to the first failure. -/
def fetchEach (fetch : ElementId → FacetSet → σ → Except StoreError Element × σ)
    (ids : List ElementId) (facets : FacetSet) (s : σ) : Except StoreError (List Element) × σ :=
  match ids with
  | [] => (.ok [], s)
  | id :: rest =>
      match fetch id facets s with
      | (.error e, s) => (.error e, s)
      | (.ok element, s) =>
          match fetchEach fetch rest facets s with
          | (.error e, s) => (.error e, s)
          | (.ok elements, s) => (.ok (element :: elements), s)

/-- Tables as a source; reading does not change them. -/
def tables : Source Tables where
  query types scope t := (.ok (t.query types scope), t)
  fetch id facets t := (t.fetch id facets, t)
  fetchMany ids facets t := (ids.mapM (t.fetch · facets), t)

/-- One use of a source. -/
inductive Call where
  | query (types : List String) (scope : Option ScopeId)
  | fetch (id : ElementId) (facets : FacetSet)
  | fetchMany (ids : List ElementId) (facets : FacetSet)
  deriving DecidableEq, Repr

/-- The same source, with a list of the calls made so far. -/
def logged (source : Source σ) : Source (σ × List Call) where
  query types scope s :=
    let (answer, state) := source.query types scope s.1
    (answer, state, s.2 ++ [.query types scope])
  fetch id facets s :=
    let (answer, state) := source.fetch id facets s.1
    (answer, state, s.2 ++ [.fetch id facets])
  fetchMany ids facets s :=
    let (answer, state) := source.fetchMany ids facets s.1
    (answer, state, s.2 ++ [.fetchMany ids facets])

end Source
end Registry
