import Registry.Selection

/-! # Snapshots

A graph of elements at one moment. Nodes and edges stand in the order in which they were put in;
each id is a node at most once, each triple of ends and relation an edge at most once.
-/

namespace Registry

/-- A link between two nodes. -/
structure Edge where
  source : ElementId
  target : ElementId
  relation : String
  deriving DecidableEq, Repr

/-- The edge that a link makes. -/
def Edge.ofLink (link : Link) : Edge :=
  ⟨link.source, link.target, link.relation⟩

structure Snapshot where
  nodes : List Element := []
  edges : List Edge := []
  /-- The filter that the edges passed. -/
  filter : RelationFilter
  deriving DecidableEq, Repr

namespace Snapshot

def contains (g : Snapshot) (id : ElementId) : Bool :=
  g.nodes.any (·.id == id)

def element? (g : Snapshot) (id : ElementId) : Option Element :=
  g.nodes.find? (·.id == id)

def ids (g : Snapshot) : List ElementId :=
  g.nodes.map (·.id)

/-- Add a node, unless there is one with its id. -/
def insertNode (g : Snapshot) (e : Element) : Snapshot :=
  if g.contains e.id then g else { g with nodes := g.nodes ++ [e] }

/-- Add an edge between two nodes, unless it is there. -/
def insertEdge (g : Snapshot) (edge : Edge) : Snapshot :=
  if g.contains edge.source && g.contains edge.target && !g.edges.contains edge then
    { g with edges := g.edges ++ [edge] }
  else g

/-- Nodes of a type. -/
def ofType (g : Snapshot) (typeId : String) : List Element :=
  g.nodes.filter (·.typeId == typeId)

/-- Ids that edges of the relation lead to from `id`. -/
def targetIds (g : Snapshot) (id : ElementId) (relation : String) : List ElementId :=
  (g.edges.filter fun e => e.source == id && e.relation == relation).map (·.target)

/-- Ids that edges of the relation lead from to `id`. -/
def sourceIds (g : Snapshot) (id : ElementId) (relation : String) : List ElementId :=
  (g.edges.filter fun e => e.target == id && e.relation == relation).map (·.source)

/-- The nodes with the given ids, each once. -/
def select (g : Snapshot) (ids : List ElementId) : List Element :=
  ids.eraseDups.filterMap g.element?

/-- Targets of `id`, in the order of the edges. -/
def targets (g : Snapshot) (id : ElementId) (relation : String) : List Element :=
  if g.contains id then g.select (g.targetIds id relation) else []

/-- Sources of `id`, in the order of the edges. -/
def sources (g : Snapshot) (id : ElementId) (relation : String) : List Element :=
  if g.contains id then g.select (g.sourceIds id relation) else []

/-- Targets of `id`, then those of its sources that are no targets. -/
def linked (g : Snapshot) (id : ElementId) (relation : String) : List Element :=
  if g.contains id then g.select (g.targetIds id relation ++ g.sourceIds id relation) else []

/-- How many nodes and edges there are, in all and of each sort. -/
structure Stats where
  nodeCount : Nat
  edgeCount : Nat
  nodesByType : TextMap Nat
  edgesByRelation : TextMap Nat
  relationFilter : String
  deriving DecidableEq, Repr

/-- How often each text occurs in a list. -/
def tally (texts : List String) : TextMap Nat :=
  .tabulate (.ofList texts) texts.count

def stats (g : Snapshot) : Stats where
  nodeCount := g.nodes.length
  edgeCount := g.edges.length
  nodesByType := tally (g.nodes.map (·.typeId))
  edgesByRelation := tally (g.edges.map (·.relation))
  relationFilter := g.filter.display

end Snapshot
end Registry
