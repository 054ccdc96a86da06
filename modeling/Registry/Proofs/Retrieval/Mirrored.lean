import Registry.Mutation

/-! # Sources that mirror others

The states of one source may be mapped to those of another that answers the same: one source keeps
a record of its calls besides, or reads one part of a larger state. A retrieval then does over the
one what it does over the other.
-/

namespace Registry

variable {σ τ : Type}

/-- At the image of a state the mirror answers as the source does at the state. -/
structure Source.Mirrors (mirror : Source τ) (source : Source σ) (image : σ → τ) : Prop where
  query : ∀ types scope s, mirror.query types scope (image s) =
    ((source.query types scope s).1, image (source.query types scope s).2)
  fetch : ∀ id facets s, mirror.fetch id facets (image s) =
    ((source.fetch id facets s).1, image (source.fetch id facets s).2)
  fetchMany : ∀ ids facets s, mirror.fetchMany ids facets (image s) =
    ((source.fetchMany ids facets s).1, image (source.fetchMany ids facets s).2)

/-- The retrieval with the image of its state. -/
def Retrieval.imaged (image : σ → τ) (r : Retrieval σ) : Retrieval τ where
  state := image r.state
  usage := r.usage

namespace Source.Mirrors

variable {mirror : Source τ} {source : Source σ} {image : σ → τ}

theorem ensure (mirrors : mirror.Mirrors source image) (e : Element) (facets : FacetSet)
    (r : Retrieval σ) :
    Retrieval.ensure mirror e facets (r.imaged image) =
      ((Retrieval.ensure source e facets r).1,
        (Retrieval.ensure source e facets r).2.imaged image) := by
  simp only [Retrieval.ensure, Retrieval.imaged, mirrors.fetch]
  split
  · rfl
  · rcases source.fetch e.id (e.missing facets) r.state with ⟨cause | fresh, state⟩
    · rfl
    · dsimp only
      split <;> rfl

theorem ensureAll (mirrors : mirror.Mirrors source image) (elements : List Element)
    (facets : FacetSet) (r : Retrieval σ) :
    Retrieval.ensureAll mirror elements facets (r.imaged image) =
      ((Retrieval.ensureAll source elements facets r).1,
        (Retrieval.ensureAll source elements facets r).2.imaged image) := by
  simp only [Retrieval.ensureAll, Retrieval.imaged, mirrors.fetchMany]
  split
  · rfl
  · rcases source.fetchMany _ _ r.state with ⟨cause | brought, state⟩
    · rfl
    · dsimp only
      split <;> rfl

theorem ensureOrMark (mirrors : mirror.Mirrors source image) (e : Element) (facets : FacetSet)
    (r : Retrieval σ) :
    Retrieval.ensureOrMark mirror e facets (r.imaged image) =
      ((Retrieval.ensureOrMark source e facets r).1,
        (Retrieval.ensureOrMark source e facets r).2.imaged image) := by
  simp only [Retrieval.ensureOrMark, mirrors.ensure]
  rcases Retrieval.ensure source e facets r with ⟨error | loaded, after⟩ <;> rfl

theorem selectNodes (mirrors : mirror.Mirrors source image) (loaders : List Loader) :
    ∀ (nodes : List Element) (r : Retrieval σ),
      Snapshot.selectNodes mirror nodes loaders (r.imaged image) =
        ((Snapshot.selectNodes source nodes loaders r).1,
          (Snapshot.selectNodes source nodes loaders r).2.imaged image) := by
  induction loaders with
  | nil => intro nodes r; rfl
  | cons loader rest ih =>
      intro nodes r
      simp only [Snapshot.selectNodes, Retrieval.imaged, mirrors.query]
      rcases source.query loader.types.toList loader.scope r.state with ⟨cause | found, state⟩
      · rfl
      · exact ih (Snapshot.addNew nodes found) { r with state }

theorem build (mirrors : mirror.Mirrors source image) (loaders : List Loader)
    (filter : RelationFilter) (r : Retrieval σ) :
    Snapshot.build mirror loaders filter (r.imaged image) =
      ((Snapshot.build source loaders filter r).1,
        (Snapshot.build source loaders filter r).2.imaged image) := by
  simp only [Snapshot.build, mirrors.selectNodes]
  rcases Snapshot.selectNodes source [] loaders r with ⟨error | nodes, after⟩
  · rfl
  · dsimp only
    split
    · rw [mirrors.ensureAll]
      rcases Retrieval.ensureAll source nodes .links after with ⟨error | nodes, after⟩ <;> rfl
    · rfl

end Source.Mirrors

theorem Source.left_mirrors (source : Source σ) (x : τ) :
    source.left.Mirrors source fun s => (s, x) where
  query _ _ _ := rfl
  fetch _ _ _ := rfl
  fetchMany _ _ _ := rfl

/-- The same retrieval, next to something that it does not read. -/
def Retrieval.beside (r : Retrieval σ) (x : τ) : Retrieval (σ × τ) where
  state := (r.state, x)
  usage := r.usage

theorem Snapshot.build_left (source : Source σ) (loaders : List Loader) (filter : RelationFilter)
    (r : Retrieval σ) (x : τ) :
    build source.left loaders filter (r.beside x) =
      ((build source loaders filter r).1, (build source loaders filter r).2.beside x) :=
  (source.left_mirrors x).build loaders filter r

end Registry
