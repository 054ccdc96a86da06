import Registry.Proofs.Retrieval.Agreement

/-! # Loading in steps

From tables that stay as they are, facets may be loaded one request after the other, in either
order, or all in one request. That makes no difference to what is loaded, nor to whether it can be
loaded, but only to the number of calls.
-/

namespace Registry

theorem FacetSet.union_comm (s t : FacetSet) : s.union t = t.union s :=
  ext_contains fun kind => by rw [contains_union, contains_union, Bool.or_comm]

variable {e : Element} {first second facets : FacetSet} {kind : FacetKind}

namespace Element

theorem covers_union_iff : e.Covers (first.union second) ↔ e.Covers first ∧ e.Covers second := by
  simp only [Covers, FacetSet.contains_union, Bool.or_eq_true, or_imp, forall_and]

/-- A facet of the second request that is missing, or also one of the first. -/
theorem contains_missing_union : (e.missing (first.union second)).contains kind =
    ((e.missing first).contains kind || (e.missing second).contains kind) := by
  rw [contains_missing, contains_missing, contains_missing, FacetSet.contains_union,
    Bool.and_or_distrib_right]

theorem missing_union_of_covers (enough : e.Covers first) :
    e.missing (first.union second) = e.missing second := by
  refine FacetSet.ext_contains fun kind => ?_
  have nothing := FacetSet.isEmpty_iff.1 (covers_iff.1 enough) kind
  rw [contains_missing_union, nothing, Bool.false_or]

end Element

namespace Tables

variable {t : Tables} {row : ElementRow}

/-- The element with all that it lacks of the facets, out of a row. -/
def filled (t : Tables) (row : ElementRow) (facets : FacetSet) (e : Element) : Element :=
  e.absorb (t.load row (e.missing facets))

theorem sameFacet_filled (present : e.Present kind) :
    (t.filled row facets e).SameFacet e kind := by
  have unasked : (e.missing facets).contains kind = false :=
    Element.not_contains_missing_iff.2 fun _ => present
  exact Element.sameFacet_absorb (t.unfetched_load row unasked) present

theorem sameFacet_filled_of_wanted (absent : ¬ e.Present kind)
    (wanted : facets.contains kind = true) :
    (t.filled row facets e).SameFacet (t.load row .all) kind := by
  have asked : (e.missing facets).contains kind = true :=
    Element.contains_missing_iff.2 ⟨wanted, absent⟩
  have brought : (t.load row (e.missing facets)).has kind = true := by rw [t.has_load, asked]
  exact (Element.sameFacet_absorb_of_has brought).trans
    (t.sameFacet_load row (by rw [asked, FacetSet.contains_all]))

theorem unfetched_filled (absent : ¬ e.Present kind) (unwanted : ¬ facets.contains kind = true) :
    (t.filled row facets e).Unfetched kind := by
  have unasked : (e.missing facets).contains kind = false :=
    Element.not_contains_missing_iff.2 fun wanted => absurd wanted unwanted
  exact Element.unfetched_absorb (t.unfetched_load row unasked) absent

theorem present_filled_iff :
    (t.filled row facets e).Present kind ↔ e.Present kind ∨ facets.contains kind = true := by
  rw [filled, Element.present_absorb_iff, ← Element.has_iff (e := t.load row _), t.has_load,
    Element.contains_missing_iff, and_comm, or_comm, or_and_left, and_iff_right (em _)]

/-- What is filled in two steps is filled at once. -/
theorem filled_filled (t : Tables) (row : ElementRow) (first second : FacetSet) (e : Element) :
    t.filled row second (t.filled row first e) = t.filled row (first.union second) e := by
  -- A facet is kept from before, comes with one of the steps, or is forgotten in both.
  refine Element.eq_of_sameFacet rfl fun kind => ?_
  by_cases present : e.Present kind
  · have still : (t.filled row first e).Present kind := present_filled_iff.2 (.inl present)
    exact (sameFacet_filled still).trans
      ((sameFacet_filled present).trans (sameFacet_filled present).symm)
  by_cases early : first.contains kind = true
  · have still : (t.filled row first e).Present kind := present_filled_iff.2 (.inr early)
    have wanted : (first.union second).contains kind = true := by simp [early]
    exact (sameFacet_filled still).trans ((sameFacet_filled_of_wanted present early).trans
      (sameFacet_filled_of_wanted present wanted).symm)
  have absent : ¬ (t.filled row first e).Present kind := by
    simp [present_filled_iff, present, early]
  by_cases late : second.contains kind = true
  · have wanted : (first.union second).contains kind = true := by simp [late]
    exact (sameFacet_filled_of_wanted absent late).trans
      (sameFacet_filled_of_wanted present wanted).symm
  · have unwanted : ¬ (first.union second).contains kind = true := by simp [early, late]
    exact (unfetched_filled absent late).sameFacet_iff.2 (unfetched_filled present unwanted)

/-- What a load from the tables comes to. -/
def supply (t : Tables) (facets : FacetSet) (e : Element) : Except RetrievalError Element :=
  if e.Covers facets then .ok e
  else match t.row? e.id with
    | none => .error (.fetch e.id (.elementNotFound e.id))
    | some row => .ok (t.filled row facets e)

theorem supply_of_covers (enough : e.Covers facets) : t.supply facets e = .ok e :=
  if_pos enough

theorem supply_of_row (lacking : ¬ e.Covers facets) (found : t.row? e.id = some row) :
    t.supply facets e = .ok (t.filled row facets e) := by
  rw [supply, if_neg lacking, found]

theorem supply_of_gone (lacking : ¬ e.Covers facets) (gone : t.row? e.id = none) :
    t.supply facets e = .error (.fetch e.id (.elementNotFound e.id)) := by
  rw [supply, if_neg lacking, gone]

theorem supply_congr {facets' : FacetSet} (same : e.missing facets = e.missing facets') :
    t.supply facets e = t.supply facets' e := by
  simp only [supply, filled, Element.covers_iff, same]

/-- Two loads, one after the other, come to one load of all that is asked for. -/
theorem supply_bind (t : Tables) (first second : FacetSet) (e : Element) :
    (t.supply first e).bind (t.supply second) = t.supply (first.union second) e := by
  by_cases enough : e.Covers first
  · rw [supply_of_covers enough]
    exact supply_congr (Element.missing_union_of_covers enough).symm
  have lacking : ¬ e.Covers (first.union second) := fun all =>
    enough (Element.covers_union_iff.1 all).1
  cases found : t.row? e.id with
  | none => rw [supply_of_gone enough found, supply_of_gone lacking found, Except.bind]
  | some row =>
      have sameId : (t.filled row first e).id = e.id := t.row?_id found
      rw [supply_of_row enough found, supply_of_row lacking found, Except.bind]
      by_cases later : (t.filled row first e).Covers second
      · have same : e.missing (first.union second) = e.missing first := by
          refine FacetSet.ext_contains fun kind => ?_
          rw [Element.contains_missing_union, Bool.or_eq_left_iff_imp]
          intro missing
          obtain ⟨wanted, absent⟩ := Element.contains_missing_iff.1 missing
          have early := (present_filled_iff.1 (later kind wanted)).resolve_left absent
          exact Element.contains_missing_iff.2 ⟨early, absent⟩
        rw [supply_of_covers later, filled, filled, same]
      · rw [supply_of_row later (sameId ▸ found), filled_filled]

end Tables

theorem Element.loadCalls_congr {facets' : FacetSet} (same : e.missing facets = e.missing facets') :
    e.loadCalls facets = e.loadCalls facets' := by
  simp only [loadCalls, covers_iff, same]

theorem Element.length_loadCalls (lacking : ¬ e.Covers facets) :
    (e.loadCalls facets).length = 1 := by
  rw [loadCalls, if_neg lacking, List.length_singleton]

namespace Retrieval

variable {σ : Type} {t : Tables}

theorem settle_fetch (lacking : ¬ e.Covers facets) :
    settle e facets (t.fetch e.id (e.missing facets)) = t.supply facets e := by
  cases found : t.row? e.id with
  | none => rw [Tables.supply_of_gone lacking found, Tables.fetch, found, settle]
  | some row =>
      have whole : (t.filled row facets e).Covers facets := fun kind wanted =>
        Tables.present_filled_iff.2 (.inr wanted)
      rw [Tables.supply_of_row lacking found, Tables.fetch, found]
      exact settle_eq_ok_iff.2 ⟨_, rfl, t.row?_id found, whole, rfl⟩

theorem ensure_tables (t : Tables) (e : Element) (facets : FacetSet) (calls : List Source.Call)
    (usage : Usage) :
    ∃ spent, ensure Source.tables.logged e facets ⟨(t, calls), usage⟩ =
      (t.supply facets e, ⟨(t, calls ++ e.loadCalls facets), spent⟩) := by
  by_cases enough : e.Covers facets
  · obtain ⟨spent, unchanged⟩ := ensure_of_covers Source.tables.logged enough ⟨(t, calls), usage⟩
    exact ⟨spent, by rw [unchanged, Tables.supply_of_covers enough, Element.loadCalls,
      if_pos enough, List.append_nil]⟩
  · obtain ⟨spent, settled⟩ :=
      ensure_of_not_covers Source.tables.logged enough ⟨(t, calls), usage⟩
    refine ⟨spent, ?_⟩
    rw [settled, Element.loadCalls, if_neg enough, ← settle_fetch enough]
    rfl

/-- Load what an element lacks of one request, and then what it still lacks of another. -/
def ensureThen (source : Source σ) (e : Element) (first second : FacetSet) (r : Retrieval σ) :
    Except RetrievalError Element × Retrieval σ :=
  match ensure source e first r with
  | (.error error, r) => (.error error, r)
  | (.ok loaded, r) => ensure source loaded second r

/-- Two loads in a row cost a call if the one load of all does, and then at most a second one. -/
theorem ensureThen_tables (t : Tables) (e : Element) (first second : FacetSet)
    (calls : List Source.Call) (usage : Usage) :
    ∃ made spent, ensureThen Source.tables.logged e first second ⟨(t, calls), usage⟩ =
        (t.supply (first.union second) e, ⟨(t, calls ++ made), spent⟩) ∧
      (e.loadCalls (first.union second)).length ≤ made.length ∧
      made.length ≤ 2 * (e.loadCalls (first.union second)).length := by
  obtain ⟨spent, loaded⟩ := ensure_tables t e first calls usage
  rw [← Tables.supply_bind, ensureThen, loaded]
  -- If the first step has nothing to load, the second one does what one load of all does.
  by_cases enough : e.Covers first
  · obtain ⟨spent, again⟩ := ensure_tables t e second calls spent
    refine ⟨e.loadCalls second, spent, ?_, ?_⟩
    · rw [Tables.supply_of_covers enough, Element.loadCalls, if_pos enough, List.append_nil]
      exact again
    · rw [Element.loadCalls_congr (Element.missing_union_of_covers enough)]
      omega
  · have one : (e.loadCalls first).length = 1 := Element.length_loadCalls enough
    have atOnce : (e.loadCalls (first.union second)).length = 1 :=
      Element.length_loadCalls fun all => enough (Element.covers_union_iff.1 all).1
    cases t.supply first e with
    | error error => exact ⟨_, spent, rfl, by omega, by omega⟩
    | ok half =>
        obtain ⟨spent, again⟩ := ensure_tables t half second (calls ++ e.loadCalls first) spent
        have atMost := half.length_loadCalls_le second
        refine ⟨e.loadCalls first ++ half.loadCalls second, spent, ?_, ?_⟩
        · rw [← List.append_assoc]
          exact again
        · rw [List.length_append]
          omega

/-- Facets of two requests that are loaded in steps, in either order, or at once are the same, or
    fail alike. The steps may cost two calls instead of one. -/
theorem ensureThen_agrees (t : Tables) (e : Element) (first second : FacetSet)
    (calls : List Source.Call) (usage : Usage) :
    ∃ result once inSteps swapped spent spent' spent'',
      ensure Source.tables.logged e (first.union second) ⟨(t, calls), usage⟩ =
        (result, ⟨(t, calls ++ once), spent⟩) ∧
      ensureThen Source.tables.logged e first second ⟨(t, calls), usage⟩ =
        (result, ⟨(t, calls ++ inSteps), spent'⟩) ∧
      ensureThen Source.tables.logged e second first ⟨(t, calls), usage⟩ =
        (result, ⟨(t, calls ++ swapped), spent''⟩) ∧
      once.length ≤ 1 ∧
      (once.length ≤ inSteps.length ∧ inSteps.length ≤ 2 * once.length) ∧
      once.length ≤ swapped.length ∧ swapped.length ≤ 2 * once.length := by
  obtain ⟨spent, loaded⟩ := ensure_tables t e (first.union second) calls usage
  obtain ⟨inSteps, spent', stepped, between⟩ := ensureThen_tables t e first second calls usage
  obtain ⟨swapped, spent'', crossed, between'⟩ := ensureThen_tables t e second first calls usage
  rw [FacetSet.union_comm second first] at crossed between'
  exact ⟨_, _, inSteps, swapped, spent, spent', spent'', loaded, stepped, crossed,
    e.length_loadCalls_le _, between, between'⟩

end Retrieval
end Registry
