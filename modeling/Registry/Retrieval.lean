import Registry.Source

/-! # Retrieval

Loads the facets that an element lacks, and nothing else. What a source brings is checked before
it is used: it must be the element asked for, and it must bring all that was missing.
-/

namespace Registry

/-- Why facets could not be loaded, or elements not be selected. -/
inductive RetrievalError where
  | fetch (id : ElementId) (cause : StoreError)
  | query (cause : StoreError)
  | batch (count : Nat) (cause : StoreError)
  /-- The source brought the element without all that was missing. -/
  | incomplete (id : ElementId) (missing : FacetSet)
  deriving DecidableEq, Repr

namespace RetrievalError

def cause? : RetrievalError → Option StoreError
  | .fetch _ cause | .query cause | .batch _ cause => some cause
  | .incomplete _ _ => none

def message : RetrievalError → String
  | .fetch id cause => "Failed to fetch element " ++ toString id ++ ": " ++ cause.message
  | .query cause => "Element query failed: " ++ cause.message
  | .batch count cause =>
      "Batch fetch of " ++ toString count ++ " elements failed: " ++ cause.message
  | .incomplete id missing =>
      "Element " ++ toString id ++ " is still missing facets after fetch: " ++ missing.display

end RetrievalError

/-- Counters of what a retrieval did. -/
structure Usage where
  /-- Elements looked at. -/
  checks : Nat := 0
  /-- Elements that lacked nothing. -/
  hits : Nat := 0
  /-- Calls that asked the source for facets. -/
  fetches : Nat := 0
  /-- Elements that such calls brought. -/
  elementsFetched : Nat := 0
  deriving DecidableEq, Repr

namespace Usage

def add (a b : Usage) : Usage where
  checks := a.checks + b.checks
  hits := a.hits + b.hits
  fetches := a.fetches + b.fetches
  elementsFetched := a.elementsFetched + b.elementsFetched

/-- The share of checks that were hits. -/
def hitRate (usage : Usage) : Float :=
  if usage.checks = 0 then 0 else usage.hits.toUInt64.toFloat / usage.checks.toUInt64.toFloat

end Usage

/-- A source in some state, and what was asked of it so far. -/
structure Retrieval (σ : Type) where
  state : σ
  usage : Usage := {}

namespace Retrieval

variable {σ : Type}

def record (r : Retrieval σ) (usage : Usage) : Retrieval σ :=
  { r with usage := r.usage.add usage }

/-- A facet is present on an element. Without element, only links count as missing. -/
def isPresent (element : Option Element) (kind : FacetKind) : Bool :=
  match element with
  | some e => e.has kind
  | none => !kind.requiresElement

/-- The complaint about an element with another id than the one asked for. -/
def mismatch (asked brought : ElementId) : StoreError :=
  .invalidData
    ("store returned element " ++ toString brought ++ " for requested id " ++ toString asked)

/-- The complaint about a batch of another size than the one asked for. -/
def wrongSize (asked brought : Nat) : StoreError :=
  .invalidData
    ("store returned " ++ toString brought ++ " elements for " ++ toString asked ++ " ids")

/-- The element, if it lacks none of the facets. -/
def complete (e : Element) (facets : FacetSet) : Except RetrievalError Element :=
  let missing := e.missing facets
  if missing.isEmpty then .ok e else .error (.incomplete e.id missing)

/-- Load what `e` lacks of `facets`, in one call, or no call if it lacks nothing. -/
def ensure (source : Source σ) (e : Element) (facets : FacetSet) (r : Retrieval σ) :
    Except RetrievalError Element × Retrieval σ :=
  let missing := e.missing facets
  if missing.isEmpty then (.ok e, r.record { checks := 1, hits := 1 })
  else
    match source.fetch e.id missing r.state with
    | (.error cause, state) =>
        (.error (.fetch e.id cause), { r with state }.record { checks := 1, fetches := 1 })
    | (.ok fresh, state) =>
        let r := { r with state }.record { checks := 1, fetches := 1, elementsFetched := 1 }
        if fresh.id = e.id then (complete (e.absorb fresh) facets, r)
        else (.error (.fetch e.id (mismatch e.id fresh.id)), r)

section

variable (source : Source σ) (e : Element) (r : Retrieval σ)

def ensureAttributes : Except RetrievalError Element × Retrieval σ :=
  ensure source e (.single .attributes) r

def ensureChildren : Except RetrievalError Element × Retrieval σ :=
  ensure source e (.single .children) r

def ensurePermissions : Except RetrievalError Element × Retrieval σ :=
  ensure source e (.single .permissions) r

def ensureParent : Except RetrievalError Element × Retrieval σ :=
  ensure source e (.single .parent) r

def ensureAttributesAndChildren : Except RetrievalError Element × Retrieval σ :=
  ensure source e (.union (.single .attributes) (.single .children)) r

/-- Load the outgoing links, and with `upLinks` the incoming ones too. -/
def ensureLinks (upLinks : Bool) : Except RetrievalError Element × Retrieval σ :=
  let down : FacetSet := .single .linksDown
  ensure source e (if upLinks then down.insert .linksUp else down) r

end

/-- Give each incomplete element of a list its copy among `brought`, in order. -/
def mergeAll (facets : FacetSet) (count : Nat) :
    (elements brought : List Element) → Except RetrievalError (List Element)
  | [], _ => .ok []
  | e :: rest, brought =>
      if (e.missing facets).isEmpty then
        (mergeAll facets count rest brought).map (e :: ·)
      else
        match brought with
        | [] => .error (.incomplete e.id (e.missing facets))
        | fresh :: brought =>
            if fresh.id = e.id then
              match complete (e.absorb fresh) facets with
              | .error error => .error error
              | .ok done => (mergeAll facets count rest brought).map (done :: ·)
            else .error (.batch count (mismatch e.id fresh.id))

/-- The elements of a list that lack some of `facets`. -/
def pending (elements : List Element) (facets : FacetSet) : List Element :=
  elements.filter fun e => !(e.missing facets).isEmpty

/-- All that elements of a list lack of `facets`. -/
def request (elements : List Element) (facets : FacetSet) : FacetSet :=
  elements.foldl (fun set e => set.union (e.missing facets)) .empty

/-- Load what the elements of a list lack of `facets`, in one call for all of them, or no call if
    they lack nothing. -/
def ensureAll (source : Source σ) (elements : List Element) (facets : FacetSet) (r : Retrieval σ) :
    Except RetrievalError (List Element) × Retrieval σ :=
  let ids := (pending elements facets).map (·.id)
  let checks := elements.length
  let hits := checks - ids.length
  if ids.isEmpty then (.ok elements, r.record { checks, hits })
  else
    match source.fetchMany ids (request elements facets) r.state with
    | (.error cause, state) =>
        (.error (.batch ids.length cause), { r with state }.record { checks, hits, fetches := 1 })
    | (.ok brought, state) =>
        let r := { r with state }.record { checks, hits, fetches := 1 }
        if brought.length = ids.length then
          (mergeAll facets ids.length elements brought,
            r.record { elementsFetched := brought.length })
        else (.error (.batch ids.length (wrongSize ids.length brought.length)), r)

/-- Load what `e` lacks of `facets`; if that fails, mark it as failed. -/
def ensureOrMark (source : Source σ) (e : Element) (facets : FacetSet) (r : Retrieval σ) :
    Element × Retrieval σ :=
  match ensure source e facets r with
  | (.ok e, r) => (e, r)
  | (.error error, r) => (e.markFailed facets error.message, r)

end Retrieval
end Registry
