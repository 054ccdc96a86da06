import Registry.Proofs.Retrieval.Guarantees

/-! # What a batch guarantees

A batch asks once, for all that is missing on any of its elements. Each incomplete element takes in
the copy that was brought for it, in the order of the list, and the first copy that does not fit
fails the whole batch. The same comes of a batch that is kept in slots, which are emptied and filled
by position.
-/

namespace Registry

namespace Retrieval

variable {σ : Type} {e fresh : Element} {elements brought loaded : List Element}
  {facets : FacetSet} {count : Nat} {error : RetrievalError}

theorem pending_eq (elements : List Element) (facets : FacetSet) :
    pending elements facets = elements.filter fun e => ¬ e.Covers facets := by
  refine List.filter_congr fun e _ => ?_
  rw [Bool.eq_iff_iff]
  simp [Element.covers_iff]

theorem pending_cons_of_covers (enough : e.Covers facets) :
    pending (e :: elements) facets = pending elements facets := by
  rw [pending_eq, pending_eq, List.filter_cons_of_neg (by simpa using enough)]

theorem pending_cons_of_not_covers (lacking : ¬ e.Covers facets) :
    pending (e :: elements) facets = e :: pending elements facets := by
  rw [pending_eq, pending_eq, List.filter_cons_of_pos (by simpa using lacking)]

theorem pending_eq_nil_iff :
    pending elements facets = [] ↔ ∀ e ∈ elements, e.Covers facets := by
  simp [pending_eq]

theorem complete_of_not_covers (lacking : ¬ e.Covers facets) :
    complete e facets = .error (.incomplete e.id (e.missing facets)) := by
  rw [Element.covers_iff] at lacking
  exact if_neg lacking

/-- The copy is one of the element, and brings all that is missing on it. -/
structure Fits (facets : FacetSet) (e fresh : Element) : Prop where
  sameId : fresh.id = e.id
  whole : (e.absorb fresh).Covers facets

/-- Each incomplete element takes in the next of the copies; the others stay as they are. -/
inductive Placed (facets : FacetSet) : List Element → List Element → List Element → Prop
  | nil : Placed facets [] [] []
  | kept {e : Element} {elements brought loaded : List Element} (enough : e.Covers facets)
      (rest : Placed facets elements brought loaded) :
      Placed facets (e :: elements) brought (e :: loaded)
  | merged {e fresh : Element} {elements brought loaded : List Element}
      (lacking : ¬ e.Covers facets) (rest : Placed facets elements brought loaded) :
      Placed facets (e :: elements) (fresh :: brought) (e.absorb fresh :: loaded)

/-- The error that the first copy that does not fit ends in. -/
inductive Spoiled (facets : FacetSet) (count : Nat) :
    List Element → List Element → RetrievalError → Prop
  | stranger {e fresh : Element} {elements brought : List Element} (other : fresh.id ≠ e.id) :
      Spoiled facets count (e :: elements) (fresh :: brought)
        (.batch count (mismatch e.id fresh.id))
  | partly {e fresh : Element} {elements brought : List Element} (sameId : fresh.id = e.id)
      (lacking : ¬ (e.absorb fresh).Covers facets) :
      Spoiled facets count (e :: elements) (fresh :: brought)
        (.incomplete e.id ((e.absorb fresh).missing facets))
  | later {e fresh : Element} {elements brought : List Element} {error : RetrievalError}
      (fits : Fits facets e fresh) (rest : Spoiled facets count elements brought error) :
      Spoiled facets count (e :: elements) (fresh :: brought) error

theorem Spoiled.not_fits (spoiled : Spoiled facets count elements brought error) :
    ¬ List.Forall₂ (Fits facets) elements brought := by
  induction spoiled with
  | stranger other =>
      rintro (_ | ⟨fits, _⟩)
      exact other fits.sameId
  | partly _ lacking =>
      rintro (_ | ⟨fits, _⟩)
      exact lacking fits.whole
  | later _ _ ih =>
      rintro (_ | ⟨_, rest⟩)
      exact ih rest

/-- A list and as many copies as it has incomplete elements: either all of them fit, or one is the
    first that does not. -/
theorem mergeAll_cases (count : Nat) (size : brought.length = (pending elements facets).length) :
    (∃ loaded, mergeAll facets count elements brought = .ok loaded ∧
        List.Forall₂ (Fits facets) (pending elements facets) brought ∧
        Placed facets elements brought loaded) ∨
      ∃ error, mergeAll facets count elements brought = .error error ∧
        Spoiled facets count (pending elements facets) brought error := by
  induction elements generalizing brought with
  | nil =>
      have none : brought = [] := List.length_eq_zero_iff.1 size
      subst none
      exact .inl ⟨[], rfl, .nil, .nil⟩
  | cons e rest ih =>
      by_cases enough : e.Covers facets
      · have step : mergeAll facets count (e :: rest) brought =
            (mergeAll facets count rest brought).map (e :: ·) := by
          simp only [mergeAll, if_pos (Element.covers_iff.1 enough)]
        rw [pending_cons_of_covers enough] at size ⊢
        rw [step]
        rcases ih size with ⟨loaded, merged, fit, placed⟩ | ⟨error, failed, spoiled⟩
        · exact .inl ⟨e :: loaded, by rw [merged]; rfl, fit, .kept enough placed⟩
        · exact .inr ⟨error, by rw [failed]; rfl, spoiled⟩
      · rw [pending_cons_of_not_covers enough] at size ⊢
        obtain ⟨fresh, brought, rfl⟩ := List.exists_cons_of_length_eq_add_one size
        have lacking := Element.covers_iff.not.1 enough
        simp only [mergeAll, if_neg lacking]
        by_cases sameId : fresh.id = e.id
        · rw [if_pos sameId]
          by_cases whole : (e.absorb fresh).Covers facets
          · rw [complete_eq_ok_iff.2 ⟨whole, rfl⟩]
            dsimp only
            rcases ih (Nat.succ.inj size) with
              ⟨loaded, merged, fit, placed⟩ | ⟨error, failed, spoiled⟩
            · exact .inl ⟨_, by rw [merged]; rfl, .cons ⟨sameId, whole⟩ fit,
                .merged enough placed⟩
            · exact .inr ⟨error, by rw [failed]; rfl, .later ⟨sameId, whole⟩ spoiled⟩
          · have sameMissing : (e.absorb fresh).id = e.id := sameId
            rw [complete_of_not_covers whole, sameMissing]
            exact .inr ⟨_, rfl, .partly sameId whole⟩
        · rw [if_neg sameId]
          exact .inr ⟨_, rfl, .stranger sameId⟩

/-- What is made of the answer to the call for the incomplete elements. -/
def settleAll (elements : List Element) (facets : FacetSet) :
    Except StoreError (List Element) → Except RetrievalError (List Element)
  | .error cause => .error (.batch (pending elements facets).length cause)
  | .ok brought =>
      let count := (pending elements facets).length
      if brought.length = count then mergeAll facets count elements brought
      else .error (.batch count (wrongSize count brought.length))

/-- Why a batch that asked for some elements fails. -/
inductive Failure (facets : FacetSet) (asked : List Element) :
    Except StoreError (List Element) → RetrievalError → Prop
  | refused (cause : StoreError) : Failure facets asked (.error cause) (.batch asked.length cause)
  | otherSize {brought : List Element} (other : brought.length ≠ asked.length) :
      Failure facets asked (.ok brought)
        (.batch asked.length (wrongSize asked.length brought.length))
  | spoiled {brought : List Element} {error : RetrievalError}
      (size : brought.length = asked.length)
      (spoiled : Spoiled facets asked.length asked brought error) :
      Failure facets asked (.ok brought) error

/-- What a batch comes to, as the answer to its call has it. -/
structure Settled (elements : List Element) (facets : FacetSet)
    (answer : Except StoreError (List Element)) (result : Except RetrievalError (List Element)) :
    Prop where
  /-- Each incomplete element needs a copy that fits, at its place, and there must be no other. -/
  succeeds : (∃ loaded, result = .ok loaded) ↔
    ∃ brought, answer = .ok brought ∧ List.Forall₂ (Fits facets) (pending elements facets) brought
  placed : ∀ brought loaded, answer = .ok brought → result = .ok loaded →
    Placed facets elements brought loaded
  failed : ∀ error, result = .error error → Failure facets (pending elements facets) answer error

theorem settled_of_failure {answer : Except StoreError (List Element)}
    (useless : ∀ brought, answer = .ok brought →
      ¬ List.Forall₂ (Fits facets) (pending elements facets) brought)
    (failure : Failure facets (pending elements facets) answer error) :
    Settled elements facets answer (.error error) where
  succeeds := by
    constructor
    · rintro ⟨loaded, done⟩
      cases done
    · rintro ⟨brought, answered, fit⟩
      exact absurd fit (useless brought answered)
  placed _ _ _ done := by cases done
  failed _ failed := by
    cases failed
    exact failure

theorem settled_settleAll (elements : List Element) (facets : FacetSet)
    (answer : Except StoreError (List Element)) :
    Settled elements facets answer (settleAll elements facets answer) := by
  cases answer with
  | error cause => exact settled_of_failure (fun _ answered => by cases answered) (.refused cause)
  | ok brought =>
      by_cases size : brought.length = (pending elements facets).length
      · simp only [settleAll, if_pos size]
        rcases mergeAll_cases _ size with ⟨loaded, merged, fit, placed⟩ | ⟨error, failed, spoiled⟩
        · rw [merged]
          exact {
            succeeds := iff_of_true ⟨loaded, rfl⟩ ⟨brought, rfl, fit⟩
            placed := by
              rintro _ _ ⟨rfl⟩ ⟨rfl⟩
              exact placed
            failed := fun _ failed => by cases failed }
        · rw [failed]
          refine settled_of_failure ?_ (.spoiled size spoiled)
          rintro _ ⟨rfl⟩
          exact spoiled.not_fits
      · simp only [settleAll, if_neg size]
        refine settled_of_failure ?_ (.otherSize size)
        rintro _ ⟨rfl⟩ fit
        exact size fit.length_eq.symm

/-! ## One batch -/

theorem ensureAll_of_covers (source : Source σ) (enough : ∀ e ∈ elements, e.Covers facets)
    (r : Retrieval σ) :
    ∃ spent, ensureAll source elements facets r = (.ok elements, ⟨r.state, spent⟩) := by
  simp only [ensureAll, pending_eq_nil_iff.2 enough]
  exact ⟨_, rfl⟩

theorem ensureAll_of_not_covers (source : Source σ)
    (lacking : ¬ ∀ e ∈ elements, e.Covers facets) (r : Retrieval σ) :
    ∃ spent, ensureAll source elements facets r =
      (settleAll elements facets
          (source.fetchMany ((pending elements facets).map (·.id)) (request elements facets)
            r.state).1,
        ⟨(source.fetchMany ((pending elements facets).map (·.id)) (request elements facets)
          r.state).2, spent⟩) := by
  have some : ((pending elements facets).map (·.id)).isEmpty = false := by
    rw [← Bool.not_eq_true, List.isEmpty_iff, List.map_eq_nil_iff]
    exact fun none => lacking (pending_eq_nil_iff.1 none)
  generalize asked : (pending elements facets).map (·.id) = ids at some ⊢
  have count : ids.length = (pending elements facets).length := by
    rw [← asked, List.length_map]
  simp only [ensureAll, asked, some, count, Bool.false_eq_true, if_false]
  rcases source.fetchMany ids (request elements facets) r.state with ⟨cause | brought, state⟩
  · exact ⟨_, rfl⟩
  · simp only [settleAll]
    split
    · exact ⟨_, rfl⟩
    · exact ⟨_, rfl⟩

/-- What a batch that succeeds leaves of an element. -/
structure Kept (facets : FacetSet) (e loaded : Element) : Prop where
  sameId : loaded.id = e.id
  untouched : e.Covers facets → loaded = e
  whole : loaded.Covers facets
  present : ∀ kind, e.Present kind → loaded.Present kind

theorem kept_of_covers (enough : e.Covers facets) : Kept facets e e where
  sameId := rfl
  untouched _ := rfl
  whole := enough
  present _ := id

theorem kept_of_fits (lacking : ¬ e.Covers facets) (fits : Fits facets e fresh) :
    Kept facets e (e.absorb fresh) where
  sameId := fits.sameId
  untouched enough := absurd enough lacking
  whole := fits.whole
  present _ present := Element.present_absorb_iff.2 (.inr present)

theorem Placed.kept_all (placed : Placed facets elements brought loaded)
    (fit : List.Forall₂ (Fits facets) (pending elements facets) brought) :
    List.Forall₂ (Kept facets) elements loaded := by
  induction placed with
  | nil => exact .nil
  | kept enough _ ih =>
      rw [pending_cons_of_covers enough] at fit
      exact .cons (kept_of_covers enough) (ih fit)
  | merged lacking _ ih =>
      rw [pending_cons_of_not_covers lacking] at fit
      obtain ⟨fits, fit⟩ := List.forall₂_cons.1 fit
      exact .cons (kept_of_fits lacking fits) (ih fit)

/-! ## Batches in slots -/

/-- Positions of the incomplete elements, the first of which is `n`. -/
def placesFrom (n : Nat) (elements : List Element) (facets : FacetSet) : List Nat :=
  ((elements.zipIdx n).filter fun place => !(place.1.missing facets).isEmpty).map (·.2)

/-- Take the element out of each of the slots and put in what it becomes with its copy. -/
def fillSlots (facets : FacetSet) (count : Nat) :
    List (Nat × Element) → List (Option Element) → Except RetrievalError (List (Option Element))
  | [], slots => .ok slots
  | (n, fresh) :: rest, slots =>
      match slots[n]?.join with
      | none => fillSlots facets count rest slots
      | some e =>
          if fresh.id = e.id then
            match complete (e.absorb fresh) facets with
            | .error error => .error error
            | .ok done => fillSlots facets count rest (slots.set n (some done))
          else .error (.batch count (mismatch e.id fresh.id))

/-- The batch by positions; what is left in the slots is the result. -/
def ensureSlots (source : Source σ) (elements : List Element) (facets : FacetSet)
    (r : Retrieval σ) : Except RetrievalError (List Element) × Retrieval σ :=
  let places := placesFrom 0 elements facets
  let checks := elements.length
  let hits := checks - places.length
  if places.isEmpty then (.ok elements, r.record { checks, hits })
  else
    let ids := places.filterMap fun n => elements[n]?.map (·.id)
    match source.fetchMany ids (request elements facets) r.state with
    | (.error cause, state) =>
        (.error (.batch ids.length cause), { r with state }.record { checks, hits, fetches := 1 })
    | (.ok brought, state) =>
        let r := { r with state }.record { checks, hits, fetches := 1 }
        if brought.length = ids.length then
          ((fillSlots facets ids.length (places.zip brought) (elements.map some)).map
              fun slots => slots.filterMap id,
            r.record { elementsFetched := brought.length })
        else (.error (.batch ids.length (wrongSize ids.length brought.length)), r)

theorem placesFrom_cons_of_covers (enough : e.Covers facets) (n : Nat) :
    placesFrom n (e :: elements) facets = placesFrom (n + 1) elements facets := by
  rw [Element.covers_iff] at enough
  rw [placesFrom, List.zipIdx_cons, List.filter_cons_of_neg (by simp [enough])]
  rfl

theorem placesFrom_cons_of_not_covers (lacking : ¬ e.Covers facets) (n : Nat) :
    placesFrom n (e :: elements) facets = n :: placesFrom (n + 1) elements facets := by
  rw [Element.covers_iff] at lacking
  rw [placesFrom, List.zipIdx_cons, List.filter_cons_of_pos (by simp [lacking])]
  rfl

theorem length_placesFrom (n : Nat) (elements : List Element) (facets : FacetSet) :
    (placesFrom n elements facets).length = (pending elements facets).length := by
  induction elements generalizing n with
  | nil => rfl
  | cons e rest ih =>
      by_cases enough : e.Covers facets
      · rw [placesFrom_cons_of_covers enough, pending_cons_of_covers enough, ih]
      · rw [placesFrom_cons_of_not_covers enough, pending_cons_of_not_covers enough,
          List.length_cons, List.length_cons, ih]

/-- The positions, counted from behind some elements that are done, are those of the incomplete
    elements. -/
theorem ids_placesFrom (done elements : List Element) (facets : FacetSet) :
    (placesFrom done.length elements facets).filterMap
        (fun n => (done ++ elements)[n]?.map (·.id)) =
      (pending elements facets).map (·.id) := by
  induction elements generalizing done with
  | nil => rfl
  | cons e rest ih =>
      have later := ih (done ++ [e])
      rw [List.length_append, List.length_singleton, List.append_assoc, List.singleton_append]
        at later
      by_cases enough : e.Covers facets
      · rw [placesFrom_cons_of_covers enough, pending_cons_of_covers enough, later]
      · have here : (done ++ e :: rest)[done.length]?.map (·.id) = some e.id := by simp
        rw [placesFrom_cons_of_not_covers enough, pending_cons_of_not_covers enough]
        simp only [List.filterMap_cons, here, later, List.map_cons]

/-- Slots of elements that are done stay as they are; the others come to hold what the batch makes
    of their elements. -/
theorem fillSlots_eq (count : Nat) (done : List Element)
    (size : brought.length = (pending elements facets).length) :
    fillSlots facets count ((placesFrom done.length elements facets).zip brought)
        ((done ++ elements).map some) =
      (mergeAll facets count elements brought).map fun loaded => (done ++ loaded).map some := by
  induction elements generalizing done brought with
  | nil => rfl
  | cons e rest ih =>
      -- whatever becomes of the first element, it is then done
      have later (next : Element) {brought : List Element}
          (size : brought.length = (pending rest facets).length) :
          fillSlots facets count ((placesFrom (done.length + 1) rest facets).zip brought)
              ((done ++ next :: rest).map some) =
            (mergeAll facets count rest brought).map fun loaded =>
              (done ++ next :: loaded).map some := by
        simpa using ih (done ++ [next]) size
      by_cases enough : e.Covers facets
      · rw [pending_cons_of_covers enough] at size
        rw [placesFrom_cons_of_covers enough, later e size]
        simp only [mergeAll, if_pos (Element.covers_iff.1 enough)]
        cases mergeAll facets count rest brought <;> rfl
      · rw [pending_cons_of_not_covers enough] at size
        obtain ⟨fresh, brought, rfl⟩ := List.exists_cons_of_length_eq_add_one size
        have slot : ((done ++ e :: rest).map some)[done.length]?.join = some e := by simp
        have filled (next : Element) : ((done ++ e :: rest).map some).set done.length (some next) =
            (done ++ next :: rest).map some := by
          simp
        rw [placesFrom_cons_of_not_covers enough, List.zip_cons_cons]
        simp only [fillSlots, slot, mergeAll, if_neg (Element.covers_iff.not.1 enough)]
        split
        · rcases complete (e.absorb fresh) facets with error | next
          · rfl
          · dsimp only
            rw [filled, later next (Nat.succ.inj size)]
            cases mergeAll facets count rest brought <;> rfl
        · rfl

theorem ensureSlots_eq (source : Source σ) (elements : List Element) (facets : FacetSet)
    (r : Retrieval σ) :
    ensureSlots source elements facets r = ensureAll source elements facets r := by
  have ids : (placesFrom 0 elements facets).filterMap (fun n => elements[n]?.map (·.id)) =
      (pending elements facets).map (·.id) := ids_placesFrom [] elements facets
  have size := length_placesFrom 0 elements facets
  have same : (placesFrom 0 elements facets).isEmpty =
      ((pending elements facets).map (·.id)).isEmpty := by
    rw [Bool.eq_iff_iff, List.isEmpty_iff_length_eq_zero, List.isEmpty_iff_length_eq_zero, size,
      List.length_map]
  simp only [ensureSlots, ensureAll, ids, same, size, List.length_map]
  split
  · rfl
  · rcases source.fetchMany _ _ r.state with ⟨cause | brought, state⟩
    · rfl
    · dsimp only
      split
      · rename_i enough
        have filled := fillSlots_eq (pending elements facets).length [] enough
        simp only [List.length_nil, List.nil_append] at filled
        rw [filled]
        cases mergeAll facets (pending elements facets).length elements brought with
        | error error => rfl
        | ok loaded => simp [Except.map]
      · rfl

/-- What a batch is good for, whichever source it asks. -/
structure BatchGuarantees (source : Source σ) (elements : List Element) (facets : FacetSet) :
    Prop where
  /-- The incomplete elements are taken in the order of the list. -/
  incomplete : pending elements facets = elements.filter fun e => ¬ e.Covers facets
  asked : ∀ kind, (request elements facets).contains kind = true ↔
    ∃ e ∈ elements, facets.contains kind = true ∧ ¬ e.Present kind
  untouched : (∀ e ∈ elements, e.Covers facets) → ∀ r : Retrieval (σ × List Source.Call),
    ∃ spent, ensureAll source.logged elements facets r = (.ok elements, ⟨r.state, spent⟩)
  called : ¬ (∀ e ∈ elements, e.Covers facets) → ∀ s calls usage, ∃ result spent,
    ensureAll source.logged elements facets ⟨(s, calls), usage⟩ =
        (result, ⟨((source.fetchMany ((pending elements facets).map (·.id))
            (request elements facets) s).2,
          calls ++ [.fetchMany ((pending elements facets).map (·.id)) (request elements facets)]),
          spent⟩) ∧
      Settled elements facets (source.fetchMany ((pending elements facets).map (·.id))
        (request elements facets) s).1 result
  loaded : ∀ r loaded after, ensureAll source.logged elements facets r = (.ok loaded, after) →
    List.Forall₂ (Kept facets) elements loaded
  inSlots : ∀ r, ensureSlots source.logged elements facets r =
    ensureAll source.logged elements facets r

/-- The guarantees hold for every source, whatever it answers. -/
theorem ensureAll_guarantees (source : Source σ) (elements : List Element) (facets : FacetSet) :
    BatchGuarantees source elements facets where
  incomplete := pending_eq elements facets
  asked kind := by
    rw [contains_request]
    simp only [Element.contains_missing_iff]
  untouched enough r := ensureAll_of_covers source.logged enough r
  called lacking s calls usage := by
    obtain ⟨spent, settled⟩ := ensureAll_of_not_covers source.logged lacking ⟨(s, calls), usage⟩
    exact ⟨_, spent, settled, settled_settleAll elements facets _⟩
  loaded r loaded after done := by
    by_cases enough : ∀ e ∈ elements, e.Covers facets
    · obtain ⟨spent, unchanged⟩ := ensureAll_of_covers source.logged enough r
      rw [unchanged] at done
      cases done
      exact List.forall₂_same.2 fun e member => kept_of_covers (enough e member)
    · obtain ⟨spent, result⟩ := ensureAll_of_not_covers source.logged enough r
      rw [result] at done
      have settled := settled_settleAll elements facets (source.logged.fetchMany
        ((pending elements facets).map (·.id)) (request elements facets) r.state).1
      have isOk := congrArg Prod.fst done
      obtain ⟨brought, answered, fit⟩ := settled.succeeds.1 ⟨loaded, isOk⟩
      exact (settled.placed brought loaded answered isOk).kept_all fit
  inSlots r := ensureSlots_eq source.logged elements facets r

end Retrieval
end Registry
