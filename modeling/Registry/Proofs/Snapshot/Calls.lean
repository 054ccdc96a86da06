import Registry.Proofs.Retrieval.Batch
import Registry.Proofs.Snapshot.Stored

/-! # The calls of a build

A build asks a source once for each loader, up to the first query that is refused, and then at most
once more, for the links that some of the selected nodes lack. It makes no other call, and a graph
comes of it only if none was refused.
-/

namespace Registry

variable {σ : Type}

namespace RelationFilter

variable {filter : RelationFilter}

/-- Every relation counts, or some do. -/
def WantsLinks : RelationFilter → Prop
  | .nodesOnly => False
  | .all => True
  | .only relations => relations.toList ≠ []

theorem loadsLinks_normalized_iff : filter.normalized.loadsLinks = true ↔ filter.WantsLinks := by
  cases filter with
  | nodesOnly | all => simp [normalized, loadsLinks, WantsLinks]
  | only relations =>
      cases empty : relations.isEmpty <;>
        simp_all [normalized, loadsLinks, WantsLinks, TextSet.isEmpty]

end RelationFilter

namespace Source

/-- The query for what a loader selects. -/
def Call.ofLoader (loader : Loader) : Call :=
  .query loader.types.toList loader.scope

/-- The queries for some loaders, one after the other, are all answered, and take the source from
    one state to another. -/
inductive Answers (source : Source σ) : List Loader → σ → List (List Element) → σ → Prop
  | nil (s : σ) : Answers source [] s [] s
  | cons {loader : Loader} {rest : List Loader} {found : List Element}
      {founds : List (List Element)} {s between s' : σ}
      (answer : source.query loader.types.toList loader.scope s = (.ok found, between))
      (later : Answers source rest between founds s') :
      Answers source (loader :: rest) s (found :: founds) s'

/-- Of the queries for some loaders the one for `loader` is the first that is refused. -/
structure Refuses (source : Source σ) (loaders : List Loader) (s : σ) (before : List Loader)
    (loader : Loader) (cause : StoreError) (s' : σ) : Prop where
  order : before ++ [loader] <+: loaders
  refused : ∃ founds between, source.Answers before s founds between ∧
    source.query loader.types.toList loader.scope between = (.error cause, s')

end Source

namespace Snapshot

open Source (Call)

variable {loaders : List Loader} {filter : RelationFilter} {nodes : List Element}

/-- The first element with each id. -/
def firsts (found : List Element) : List Element :=
  found.eraseDupsBy (·.id == ·.id)

/-- Elements on which the links of one direction are missing, or those of both. -/
def unlinked (nodes : List Element) : List Element :=
  nodes.filter fun e => ¬ (e.Present .linksDown ∧ e.Present .linksUp)

theorem addNew_eq_firsts {nodes : List Element} (once : (nodes.map (·.id)).Nodup)
    (found : List Element) : addNew nodes found = firsts (nodes ++ found) := by
  induction found generalizing nodes with
  | nil => simpa [addNew, firsts] using (eraseDupsBy_append once []).symm
  | cons e rest ih =>
      by_cases old : e.id ∈ nodes.map (·.id)
      · have passed : addNew nodes (e :: rest) = addNew nodes rest := by
          rw [addNew, List.foldl_cons, if_pos ((any_key_iff nodes e.id).2 old), addNew]
        rw [passed, ih once, firsts, firsts, eraseDupsBy_append once, eraseDupsBy_append once,
          List.filter_cons_of_neg (by simpa using old)]
      · have taken : addNew nodes (e :: rest) = addNew (nodes ++ [e]) rest := by
          rw [addNew, List.foldl_cons, if_neg (old ∘ (any_key_iff nodes e.id).1), addNew]
        rw [taken, ih (nodup_map_concat once old), List.append_assoc, List.singleton_append]

theorem addNew_nil (found : List Element) : addNew [] found = firsts found := by
  have once : (([] : List Element).map (·.id)).Nodup := List.nodup_nil
  exact addNew_eq_firsts once found

theorem nodup_firsts (found : List Element) : ((firsts found).map (·.id)).Nodup := by
  rw [← addNew_nil, ids_addNew found [] [] rfl]
  exact nodup_eraseDups _

/-- Either all queries are answered, and the nodes are the first elements with their ids, or one is
    refused, and it is the last. -/
theorem selectNodes_logged (source : Source σ) (loaders : List Loader) (nodes : List Element)
    (s : σ) (calls : List Call) (usage : Usage) :
    (∃ founds s', source.Answers loaders s founds s' ∧
      selectNodes source.logged nodes loaders ⟨(s, calls), usage⟩ =
        (.ok (addNew nodes founds.flatten), ⟨(s', calls ++ loaders.map .ofLoader), usage⟩)) ∨
    ∃ before loader cause s', source.Refuses loaders s before loader cause s' ∧
      selectNodes source.logged nodes loaders ⟨(s, calls), usage⟩ =
        (.error (.query cause), ⟨(s', calls ++ (before ++ [loader]).map .ofLoader), usage⟩) := by
  -- The induction is over all nodes so far: each answer adds to them, and goes on from there.
  induction loaders generalizing nodes s calls with
  | nil => exact .inl ⟨[], s, .nil s, by simp [selectNodes, addNew]⟩
  | cons loader rest ih =>
      rcases asked : source.query loader.types.toList loader.scope s with ⟨cause | found, between⟩
      · refine .inr ⟨[], loader, cause, between, ⟨⟨rest, rfl⟩, [], s, .nil s, asked⟩, ?_⟩
        simp only [selectNodes, Source.logged, asked]
        rfl
      · have step : selectNodes source.logged nodes (loader :: rest) ⟨(s, calls), usage⟩ =
            selectNodes source.logged (addNew nodes found) rest
              ⟨(between, calls ++ [.ofLoader loader]), usage⟩ := by
          simp only [selectNodes, Source.logged, asked]
          rfl
        rw [step]
        rcases ih (addNew nodes found) between (calls ++ [.ofLoader loader]) with
          ⟨founds, s', answers, selected⟩ | ⟨before, refused, cause, s', refuses, failed⟩
        · refine .inl ⟨found :: founds, s', .cons asked answers, ?_⟩
          rw [selected, List.flatten_cons, addNew, addNew, addNew, List.foldl_append,
            List.append_assoc, List.singleton_append, List.map_cons]
        · obtain ⟨⟨after, rfl⟩, founds, at', answers, refusal⟩ := refuses
          refine .inr ⟨loader :: before, refused, cause, s',
            ⟨⟨after, rfl⟩, found :: founds, at', .cons asked answers, refusal⟩, ?_⟩
          rw [failed, List.append_assoc, List.singleton_append, List.cons_append, List.map_cons]

/-- How a build over a source in state `s` ends: with a result, after some calls, which leave the
    source in another state. -/
inductive Built (source : Source σ) (loaders : List Loader) (filter : RelationFilter) (s : σ) :
    Except RetrievalError Snapshot → List Call → σ → Prop
  /-- The first query that is refused is the last call. -/
  | refused {before : List Loader} {loader : Loader} {cause : StoreError} {s' : σ}
      (refuses : source.Refuses loaders s before loader cause s') :
      Built source loaders filter s (.error (.query cause)) ((before ++ [loader]).map .ofLoader) s'
  /-- Links are not wanted, or none are missing. -/
  | settled {founds : List (List Element)} {s' : σ} (answers : source.Answers loaders s founds s')
      (enough : filter.WantsLinks → unlinked (firsts founds.flatten) = []) :
      Built source loaders filter s (.ok (ofNodes filter.normalized (firsts founds.flatten)))
        (loaders.map .ofLoader) s'
  /-- The links that are missing are asked for at once. -/
  | linked {founds : List (List Element)} {between s' : σ} {asked : FacetSet}
      {answer : Except StoreError (List Element)} {loaded : Except RetrievalError (List Element)}
      (answers : source.Answers loaders s founds between) (wanted : filter.WantsLinks)
      (lacking : unlinked (firsts founds.flatten) ≠ [])
      (once : ((unlinked (firsts founds.flatten)).map (·.id)).Nodup)
      (asks : ∀ kind, asked.contains kind = true ↔ (kind = .linksDown ∨ kind = .linksUp) ∧
        ∃ e ∈ unlinked (firsts founds.flatten), ¬ e.Present kind)
      (called : source.fetchMany ((unlinked (firsts founds.flatten)).map (·.id)) asked between =
        (answer, s'))
      (served : (∃ nodes, loaded = .ok nodes) ↔ ∃ brought, answer = .ok brought ∧
        List.Forall₂ (Retrieval.Fits .links) (unlinked (firsts founds.flatten)) brought) :
      Built source loaders filter s (loaded.map (ofNodes filter.normalized))
        (loaders.map .ofLoader ++ [.fetchMany ((unlinked (firsts founds.flatten)).map (·.id)) asked])
        s'

theorem contains_links_iff {kind : FacetKind} :
    FacetSet.links.contains kind = true ↔ kind = .linksDown ∨ kind = .linksUp := by
  cases kind <;> decide

theorem covers_links_iff {e : Element} :
    e.Covers .links ↔ e.Present .linksDown ∧ e.Present .linksUp := by
  simp only [Element.Covers, contains_links_iff, forall_eq_or_imp, forall_eq]

theorem pending_links (nodes : List Element) :
    Retrieval.pending nodes .links = unlinked nodes := by
  simp only [Retrieval.pending_eq, unlinked, covers_links_iff]

/-- All links that are missing on some node are asked for. -/
theorem contains_request_links {kind : FacetKind} :
    (Retrieval.request nodes .links).contains kind = true ↔
      (kind = .linksDown ∨ kind = .linksUp) ∧ ∃ e ∈ unlinked nodes, ¬ e.Present kind := by
  rw [Retrieval.contains_request]
  simp only [Element.contains_missing_iff, contains_links_iff]
  constructor
  · rintro ⟨e, isNode, wanted, absent⟩
    refine ⟨wanted, e, List.mem_filter.2 ⟨isNode, ?_⟩, absent⟩
    rcases wanted with rfl | rfl
    · simp [absent]
    · simp [absent]
  · rintro ⟨wanted, e, isUnlinked, absent⟩
    exact ⟨e, List.mem_of_mem_filter isUnlinked, wanted, absent⟩

theorem ensureAll_of_linked (source : Source σ) (linked : unlinked nodes = [])
    (r : Retrieval σ) :
    ∃ spent, Retrieval.ensureAll source nodes .links r = (.ok nodes, ⟨r.state, spent⟩) := by
  rw [← pending_links, Retrieval.pending_eq_nil_iff] at linked
  exact Retrieval.ensureAll_of_covers source linked r

theorem ensureAll_of_unlinked (source : Source σ) (lacking : unlinked nodes ≠ []) (s : σ)
    (calls : List Call) (usage : Usage) :
    let ids := (unlinked nodes).map (·.id)
    let asked := Retrieval.request nodes .links
    ∃ loaded spent, Retrieval.ensureAll source.logged nodes .links ⟨(s, calls), usage⟩ =
        (loaded, ⟨((source.fetchMany ids asked s).2, calls ++ [.fetchMany ids asked]), spent⟩) ∧
      ((∃ nodes, loaded = .ok nodes) ↔ ∃ brought, (source.fetchMany ids asked s).1 = .ok brought ∧
        List.Forall₂ (Retrieval.Fits .links) (unlinked nodes) brought) := by
  rw [← pending_links, ne_eq, Retrieval.pending_eq_nil_iff] at lacking
  obtain ⟨spent, settled⟩ :=
    Retrieval.ensureAll_of_not_covers source.logged lacking ⟨(s, calls), usage⟩
  rw [← pending_links]
  exact ⟨_, spent, settled, (Retrieval.settled_settleAll nodes .links _).succeeds⟩

theorem built_logged (source : Source σ) (loaders : List Loader) (filter : RelationFilter)
    (s : σ) (calls : List Call) (usage : Usage) :
    ∃ result made s' spent,
      build source.logged loaders filter ⟨(s, calls), usage⟩ =
        (result, ⟨(s', calls ++ made), spent⟩) ∧
      Built source loaders filter s result made s' := by
  rcases selectNodes_logged source loaders [] s calls usage with
    ⟨founds, between, answers, selected⟩ | ⟨before, loader, cause, s', refuses, failed⟩
  · rw [addNew_nil] at selected
    have loads : filter.normalized.loadsLinks = true ↔ filter.WantsLinks :=
      RelationFilter.loadsLinks_normalized_iff
    by_cases wanted : filter.WantsLinks
    · by_cases linked : unlinked (firsts founds.flatten) = []
      · obtain ⟨spent, done⟩ := ensureAll_of_linked source.logged linked
          ⟨(between, calls ++ loaders.map .ofLoader), usage⟩
        refine ⟨_, _, between, spent, ?_, .settled answers fun _ => linked⟩
        simp only [build, selected, if_pos (loads.2 wanted), done]
      · obtain ⟨loaded, spent, asked, served⟩ := ensureAll_of_unlinked source linked between
          (calls ++ loaders.map .ofLoader) usage
        have once : ((unlinked (firsts founds.flatten)).map (·.id)).Nodup :=
          (nodup_firsts _).sublist (List.filter_sublist.map _)
        refine ⟨_, _, _, spent, ?_, .linked answers wanted linked once
          (fun kind => contains_request_links) rfl served⟩
        simp only [build, selected, if_pos (loads.2 wanted), asked, List.append_assoc]
        cases loaded <;> rfl
    · refine ⟨_, _, between, usage, ?_, .settled answers fun yes => absurd yes wanted⟩
      simp only [build, selected, if_neg (loads.not.2 wanted)]
  · refine ⟨_, _, s', usage, ?_, .refused refuses⟩
    simp only [build, failed]

theorem Built.not_mem_fetch {source : Source σ} {s s' : σ}
    {result : Except RetrievalError Snapshot} {made : List Call}
    (built : Built source loaders filter s result made s') (id : ElementId) (facets : FacetSet) :
    .fetch id facets ∉ made := by
  cases built <;> simp [Call.ofLoader]

/-- Whatever the source answers, a build makes the calls that these rules tell, and no other; it
    never fetches a single element. -/
theorem build_calls (source : Source σ) (loaders : List Loader) (filter : RelationFilter)
    (s : σ) (calls : List Call) (usage : Usage) :
    ∃ result made s' spent,
      build source.logged loaders filter ⟨(s, calls), usage⟩ =
        (result, ⟨(s', calls ++ made), spent⟩) ∧
      Built source loaders filter s result made s' ∧
      ∀ id facets, .fetch id facets ∉ made := by
  obtain ⟨result, made, s', spent, done, built⟩ :=
    built_logged source loaders filter s calls usage
  exact ⟨result, made, s', spent, done, built, built.not_mem_fetch⟩

end Snapshot
end Registry
