import Registry.Proofs.Retrieval.Unasked
import Registry.Proofs.Snapshot.Exact

/-! # Loading as far as possible

A load that must not fail marks what it could not load. Whatever the source answers, every facet
that was asked for is then either present or known to have failed, and for what reason; nothing
that was present before is lost.
-/

namespace Registry

namespace Element

variable {e : Element} {facets : FacetSet} {reason : String} {kind : FacetKind}

/-- The facet of this kind could not be loaded, for a known reason. -/
def Failed (e : Element) (reason : String) : FacetKind → Prop
  | .attributes => e.attributes = .failed reason
  | .children => e.children = .failed reason
  | .permissions => e.permissions = .failed reason
  | .parent => e.parent = .failed reason
  | .linksDown => e.linksDown = .failed reason
  | .linksUp => e.linksUp = .failed reason

theorem SameFacet.present_iff {a b : Element} (same : a.SameFacet b kind) :
    a.Present kind ↔ b.Present kind := by
  cases kind <;> simp only [SameFacet] at same <;> simp only [Present, same]

theorem failed_markFailed (missing : (e.missing facets).contains kind = true) :
    (e.markFailed facets reason).Failed reason kind := by
  cases kind <;> exact if_pos missing

theorem sameFacet_markFailed (kept : (e.missing facets).contains kind = false) :
    (e.markFailed facets reason).SameFacet e kind := by
  cases kind <;> exact if_neg (by simp [kept])

theorem present_markFailed (present : e.Present kind) :
    (e.markFailed facets reason).Present kind := by
  have kept : (e.missing facets).contains kind = false :=
    not_contains_missing_iff.2 fun _ => present
  exact (sameFacet_markFailed kept).present_iff.2 present

end Element

namespace Retrieval

variable {σ : Type} {source : Source σ} {e loaded : Element} {facets : FacetSet}
  {error : RetrievalError} {r after : Retrieval σ}

theorem ensureOrMark_of_ok (done : ensure source e facets r = (.ok loaded, after)) :
    ensureOrMark source e facets r = (loaded, after) := by
  rw [ensureOrMark, done]

theorem ensureOrMark_of_error (failed : ensure source e facets r = (.error error, after)) :
    ensureOrMark source e facets r = (e.markFailed facets error.message, after) := by
  rw [ensureOrMark, failed]

/-- What a load that must not fail comes to, whichever source it asks. -/
structure BestEffort (source : Source σ) (e : Element) (facets : FacetSet) : Prop where
  loaded : ∀ r loaded after, ensure source e facets r = (.ok loaded, after) →
    ensureOrMark source e facets r = (loaded, after)
  /-- Facets that are missing are marked with the message of the error, and nothing else differs
      from the element as it was. -/
  marked : ∀ r error after, ensure source e facets r = (.error error, after) → ∃ marked,
    ensureOrMark source e facets r = (marked, after) ∧ marked.base = e.base ∧
      ∀ kind, (facets.contains kind = true ∧ ¬ e.Present kind → marked.Failed error.message kind) ∧
        (¬ (facets.contains kind = true ∧ ¬ e.Present kind) → marked.SameFacet e kind)
  /-- No facet that was asked for is left unfetched or loaded in part. -/
  accounted : ∀ r kind, facets.contains kind = true →
    (ensureOrMark source e facets r).1.Present kind ∨
      ∃ reason, (ensureOrMark source e facets r).1.Failed reason kind
  kept : ∀ r kind, e.Present kind → (ensureOrMark source e facets r).1.Present kind
  called : ∀ s calls usage, ∃ result s' made spent,
    ensureOrMark source.logged e facets ⟨(s, calls), usage⟩ =
      (result, ⟨(s', calls ++ made), spent⟩) ∧ made.length ≤ 1

/-- Whatever the source answers, as much is loaded as can be, and what is missing is marked. -/
theorem ensureOrMark_bestEffort (source : Source σ) (e : Element) (facets : FacetSet) :
    BestEffort source e facets where
  loaded _ _ _ done := ensureOrMark_of_ok done
  marked r error after failed := by
    refine ⟨_, ensureOrMark_of_error failed, rfl, fun kind => ?_⟩
    rw [← Element.contains_missing_iff]
    constructor
    · exact Element.failed_markFailed
    · intro kept
      exact Element.sameFacet_markFailed (Bool.not_eq_true _ ▸ kept)
  accounted r kind wanted := by
    rcases result : ensure source e facets r with ⟨error | loaded, after⟩
    · rw [ensureOrMark_of_error result]
      by_cases present : e.Present kind
      · exact .inl (Element.present_markFailed present)
      · have missing := Element.contains_missing_iff.2 ⟨wanted, present⟩
        exact .inr ⟨error.message, Element.failed_markFailed missing⟩
    · rw [ensureOrMark_of_ok result]
      exact .inl ((of_ensure_eq_ok result).2.1 kind wanted)
  kept r kind present := by
    rcases result : ensure source e facets r with ⟨error | loaded, after⟩
    · rw [ensureOrMark_of_error result]
      exact Element.present_markFailed present
    · rw [ensureOrMark_of_ok result]
      exact (of_ensure_eq_ok result).2.2 kind present
  called s calls usage := by
    obtain ⟨answer, s', spent, done⟩ := ensure_logged source e facets s calls usage
    cases answer with
    | error error =>
        exact ⟨_, s', _, spent, ensureOrMark_of_error done, e.length_loadCalls_le facets⟩
    | ok loaded => exact ⟨_, s', _, spent, ensureOrMark_of_ok done, e.length_loadCalls_le facets⟩

end Retrieval
end Registry
