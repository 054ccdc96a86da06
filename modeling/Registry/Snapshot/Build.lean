import Registry.Retrieval
import Registry.Snapshot

/-! # Building a snapshot

Nodes are selected loader by loader, their links are loaded in one go, and every accepted link
between two nodes becomes an edge.
-/

namespace Registry.Snapshot

variable {σ : Type}

/-- Add the elements whose ids are new. -/
def addNew (nodes found : List Element) : List Element :=
  found.foldl (fun nodes e => if nodes.any (·.id == e.id) then nodes else nodes ++ [e]) nodes

/-- Elements selected by loaders, after those in `nodes`. -/
def selectNodes (source : Source σ) (nodes : List Element) :
    List Loader → Retrieval σ → Except RetrievalError (List Element) × Retrieval σ
  | [], r => (.ok nodes, r)
  | loader :: rest, r =>
      match source.query loader.types.toList loader.scope r.state with
      | (.error cause, state) => (.error (.query cause), { r with state })
      | (.ok found, state) => selectNodes source (addNew nodes found) rest { r with state }

/-- The links of an element that are loaded, outgoing ones first. -/
def loadedLinks (e : Element) : List Link :=
  e.linksDown.value?.getD [] ++ e.linksUp.value?.getD []

/-- The graph of some nodes and of those of their links that the filter accepts. -/
def ofNodes (filter : RelationFilter) (nodes : List Element) : Snapshot :=
  let g := nodes.foldl insertNode { filter }
  let links := (nodes.flatMap loadedLinks).filter (filter.accepts ·.relation)
  links.foldl (fun g link => g.insertEdge (Edge.ofLink link)) g

/-- The snapshot of what the loaders select. Links are only loaded if some may become an edge. -/
def build (source : Source σ) (loaders : List Loader) (filter : RelationFilter) (r : Retrieval σ) :
    Except RetrievalError Snapshot × Retrieval σ :=
  let filter := filter.normalized
  match selectNodes source [] loaders r with
  | (.error e, r) => (.error e, r)
  | (.ok nodes, r) =>
      if filter.loadsLinks then
        match Retrieval.ensureAll source nodes .links r with
        | (.error e, r) => (.error e, r)
        | (.ok nodes, r) => (.ok (ofNodes filter nodes), r)
      else (.ok (ofNodes filter nodes), r)

end Registry.Snapshot
