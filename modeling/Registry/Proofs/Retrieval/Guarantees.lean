import Registry.Proofs.Retrieval.Stored

/-! # What a load guarantees

Nothing is promised about the answers of a source. A load asks it at most once and for nothing but
what is missing; what it then returns is the element asked for, with all that was wanted and all
that was there, and an answer that does not serve this ends in an error.
-/

namespace Registry

namespace Facet

variable {α : Type} {facet : Facet α}

theorem isFetched_iff : facet.isFetched = true ↔ ∃ value, facet = .fetched value := by
  cases facet <;> simp [isFetched, value?]

theorem loadedWith_iff {deep : α → Bool} :
    facet.loadedWith deep = true ↔ ∃ value, facet = .fetched value ∧ deep value = true := by
  cases facet <;> simp [loadedWith]

end Facet

theorem Attributes.isLoaded_iff {attributes : Attributes} :
    attributes.isLoaded = true ↔ ∃ groups, attributes.groups = .fetched groups ∧
      ∀ name group, groups.get? name = some group →
        ∃ properties, group.properties = .fetched properties := by
  have all (groups : TextMap PropertyGroup) : groups.values.all PropertyGroup.isLoaded = true ↔
      ∀ name group, groups.get? name = some group →
        ∃ properties, group.properties = .fetched properties := by
    simp only [TextMap.values, List.all_map, List.all_eq_true, TextMap.get?_eq_some_iff,
      Prod.forall, Function.comp_apply, PropertyGroup.isLoaded, Facet.isFetched_iff]
  simp only [isLoaded, Facet.loadedWith_iff, all]

namespace Element

variable {e fresh : Element} {facets : FacetSet} {kind : FacetKind}

/-- The facet of this kind is fetched, and attributes down to the properties of each group. -/
def Present (e : Element) : FacetKind → Prop
  | .attributes => ∃ groups : TextMap PropertyGroup, e.attributes = .fetched ⟨.fetched groups⟩ ∧
      ∀ name group, groups.get? name = some group →
        ∃ properties, group.properties = .fetched properties
  | .children => ∃ ids, e.children = .fetched ids
  | .permissions => ∃ permissions, e.permissions = .fetched permissions
  | .parent => ∃ parent, e.parent = .fetched parent
  | .linksDown => ∃ links, e.linksDown = .fetched links
  | .linksUp => ∃ links, e.linksUp = .fetched links

theorem has_iff : e.has kind = true ↔ e.Present kind := by
  cases kind with
  | attributes =>
      simp only [has, Present, Facet.loadedWith_iff, Attributes.isLoaded_iff]
      constructor
      · rintro ⟨⟨_⟩, fetched, groups, rfl, loaded⟩
        exact ⟨groups, fetched, loaded⟩
      · rintro ⟨groups, fetched, loaded⟩
        exact ⟨_, fetched, groups, rfl, loaded⟩
  | children | permissions | parent | linksDown | linksUp => exact Facet.isFetched_iff

/-- All of the facets are present. -/
def Covers (e : Element) (facets : FacetSet) : Prop :=
  ∀ kind, facets.contains kind = true → e.Present kind

theorem covers_iff : e.Covers facets ↔ (e.missing facets).isEmpty = true := by
  simp only [Covers, missing_isEmpty_iff, has_iff]

theorem present_absorb_iff :
    (e.absorb fresh).Present kind ↔ fresh.Present kind ∨ e.Present kind := by
  simp only [← has_iff, has_absorb, Bool.or_eq_true]

theorem contains_missing_iff :
    (e.missing facets).contains kind = true ↔ facets.contains kind = true ∧ ¬ e.Present kind := by
  simp [← has_iff]

theorem not_contains_missing_iff :
    (e.missing facets).contains kind = false ↔ (facets.contains kind = true → e.Present kind) := by
  rw [← Bool.not_eq_true, contains_missing_iff, not_and, not_not]

end Element

instance (e : Element) (kind : FacetKind) : Decidable (e.Present kind) :=
  decidable_of_iff _ Element.has_iff

instance (e : Element) (facets : FacetSet) : Decidable (e.Covers facets) :=
  decidable_of_iff _ Element.covers_iff.symm

/-- The calls that a load of the facets makes. -/
def Element.loadCalls (e : Element) (facets : FacetSet) : List Source.Call :=
  if e.Covers facets then [] else [.fetch e.id (e.missing facets)]

theorem Element.length_loadCalls_le (e : Element) (facets : FacetSet) :
    (e.loadCalls facets).length ≤ 1 := by
  rw [loadCalls]
  split <;> simp

namespace Retrieval

variable {σ : Type} {e loaded : Element} {facets : FacetSet} {answer : Except StoreError Element}

/-- What is made of the answer of a source. -/
def settle (e : Element) (facets : FacetSet) :
    Except StoreError Element → Except RetrievalError Element
  | .error cause => .error (.fetch e.id cause)
  | .ok fresh =>
      if fresh.id = e.id then complete (e.absorb fresh) facets
      else .error (.fetch e.id (mismatch e.id fresh.id))

/-- An answer that does not bring what was asked for. -/
inductive Useless (e : Element) (asked : FacetSet) : Except StoreError Element → Prop
  | refused (cause : StoreError) : Useless e asked (.error cause)
  | stranger {fresh : Element} (other : fresh.id ≠ e.id) : Useless e asked (.ok fresh)
  | partly {fresh : Element} {kind : FacetKind} (wanted : asked.contains kind = true)
      (absent : ¬ fresh.Present kind) : Useless e asked (.ok fresh)

theorem complete_eq_ok_iff : complete e facets = .ok loaded ↔ e.Covers facets ∧ e = loaded := by
  rw [Element.covers_iff, complete]
  split
  · rename_i enough
    simp [enough]
  · rename_i lacking
    simp [lacking]

theorem settle_eq_ok_iff :
    settle e facets answer = .ok loaded ↔ ∃ fresh, answer = .ok fresh ∧ fresh.id = e.id ∧
      (e.absorb fresh).Covers facets ∧ e.absorb fresh = loaded := by
  cases answer with
  | error cause => simp [settle]
  | ok fresh =>
      by_cases same : fresh.id = e.id
      · simp [settle, same, complete_eq_ok_iff]
      · simp [settle, same]

/-- What is missing on an element can only come from the fresh copy. -/
theorem covers_absorb_iff {fresh : Element} : (e.absorb fresh).Covers facets ↔
    ∀ kind, (e.missing facets).contains kind = true → fresh.Present kind := by
  simp only [Element.Covers, Element.present_absorb_iff, Element.contains_missing_iff, and_imp,
    or_iff_not_imp_right]

theorem settle_fails_iff : (∃ error, settle e facets answer = .error error) ↔
    Useless e (e.missing facets) answer := by
  constructor
  · rintro ⟨error, failed⟩
    cases answer with
    | error cause => exact .refused cause
    | ok fresh =>
        by_cases same : fresh.id = e.id
        · by_contra useful
          have whole : (e.absorb fresh).Covers facets := covers_absorb_iff.2 fun kind wanted =>
            by_contra fun absent => useful (.partly wanted absent)
          rw [settle_eq_ok_iff.2 ⟨fresh, rfl, same, whole, rfl⟩] at failed
          cases failed
        · exact .stranger same
  · intro useless
    cases result : settle e facets answer with
    | error error => exact ⟨error, rfl⟩
    | ok loaded =>
        obtain ⟨fresh, rfl, same, whole, -⟩ := settle_eq_ok_iff.1 result
        cases useless with
        | stranger other => exact absurd same other
        | partly wanted absent => exact absurd (covers_absorb_iff.1 whole _ wanted) absent

theorem ensure_of_covers (source : Source σ) (enough : e.Covers facets) (r : Retrieval σ) :
    ∃ spent, ensure source e facets r = (.ok e, ⟨r.state, spent⟩) := by
  rw [ensure, if_pos (Element.covers_iff.1 enough)]
  exact ⟨_, rfl⟩

theorem ensure_of_not_covers (source : Source σ) (lacking : ¬ e.Covers facets) (r : Retrieval σ) :
    ∃ spent, ensure source e facets r =
      (settle e facets (source.fetch e.id (e.missing facets) r.state).1,
        ⟨(source.fetch e.id (e.missing facets) r.state).2, spent⟩) := by
  rw [ensure, if_neg (Element.covers_iff.not.1 lacking)]
  rcases source.fetch e.id (e.missing facets) r.state with ⟨cause | fresh, state⟩
  · exact ⟨_, rfl⟩
  · simp only [settle]
    split
    · exact ⟨_, rfl⟩
    · exact ⟨_, rfl⟩

theorem ensure_logged (source : Source σ) (e : Element) (facets : FacetSet) (s : σ)
    (calls : List Source.Call) (usage : Usage) :
    ∃ answer s' spent, ensure source.logged e facets ⟨(s, calls), usage⟩ =
      (answer, ⟨(s', calls ++ e.loadCalls facets), spent⟩) := by
  by_cases enough : e.Covers facets
  · obtain ⟨spent, unchanged⟩ := ensure_of_covers source.logged enough ⟨(s, calls), usage⟩
    exact ⟨_, s, spent, by rw [unchanged, Element.loadCalls, if_pos enough, List.append_nil]⟩
  · obtain ⟨spent, settled⟩ := ensure_of_not_covers source.logged enough ⟨(s, calls), usage⟩
    exact ⟨_, _, spent, by rw [settled, Element.loadCalls, if_neg enough]; rfl⟩

/-- A load that succeeds gives the element asked for, with all that was wanted and all that was
    there. -/
theorem of_ensure_eq_ok {source : Source σ} {r after : Retrieval σ}
    (done : ensure source e facets r = (.ok loaded, after)) :
    loaded.id = e.id ∧ loaded.Covers facets ∧ ∀ kind, e.Present kind → loaded.Present kind := by
  by_cases enough : e.Covers facets
  · obtain ⟨spent, unchanged⟩ := ensure_of_covers source enough r
    rw [unchanged] at done
    cases done
    exact ⟨rfl, enough, fun _ => id⟩
  · obtain ⟨spent, settled⟩ := ensure_of_not_covers source enough r
    rw [settled] at done
    obtain ⟨fresh, -, same, whole, rfl⟩ := settle_eq_ok_iff.1 (congrArg Prod.fst done)
    exact ⟨same, whole, fun kind present => Element.present_absorb_iff.2 (.inr present)⟩

/-- What a load is good for, whichever source it asks. -/
structure Guarantees (source : Source σ) (e : Element) (facets : FacetSet) : Prop where
  asked : ∀ kind, (e.missing facets).contains kind = true ↔
    facets.contains kind = true ∧ ¬ e.Present kind
  untouched : e.Covers facets → ∀ r : Retrieval (σ × List Source.Call),
    ∃ spent, ensure source.logged e facets r = (.ok e, ⟨r.state, spent⟩)
  called : ¬ e.Covers facets → ∀ s calls usage, ∃ answer spent,
    ensure source.logged e facets ⟨(s, calls), usage⟩ =
        (answer, ⟨((source.fetch e.id (e.missing facets) s).2,
          calls ++ [.fetch e.id (e.missing facets)]), spent⟩) ∧
      ((∃ error, answer = .error error) ↔
        Useless e (e.missing facets) (source.fetch e.id (e.missing facets) s).1)
  loaded : ∀ r loaded after, ensure source.logged e facets r = (.ok loaded, after) →
    loaded.id = e.id ∧ loaded.Covers facets ∧ (∀ kind, e.Present kind → loaded.Present kind) ∧
      ∀ r, ∃ spent, ensure source.logged loaded facets r = (.ok loaded, ⟨r.state, spent⟩)

/-- The guarantees hold for every source, whatever it answers. -/
theorem ensure_guarantees (source : Source σ) (e : Element) (facets : FacetSet) :
    Guarantees source e facets where
  asked kind := Element.contains_missing_iff
  untouched enough r := ensure_of_covers source.logged enough r
  called lacking s calls usage := by
    obtain ⟨spent, settled⟩ := ensure_of_not_covers source.logged lacking ⟨(s, calls), usage⟩
    exact ⟨_, spent, settled, settle_fails_iff⟩
  loaded r loaded after done := by
    obtain ⟨same, whole, kept⟩ := of_ensure_eq_ok done
    exact ⟨same, whole, kept, ensure_of_covers source.logged whole⟩

end Retrieval
end Registry
