import Conformance.Proofs.KeyedMap
import Conformance.Sample.Impact

/-! Committing an edit of a sample. A commit needs the impact that the analysis gives at that
moment. It deletes nothing but the results under the removed keys, those with findings are named in
the impact, and the edited sample is a fixed point: the same edit has no impact on it and can be
committed again without effect. -/

namespace Conformance

theorem orderedDifference_eq_nil_iff {keys other : List String} :
    orderedDifference keys other = [] ↔ keys ⊆ other := by
  simp [orderedDifference, List.filter_eq_nil_iff, List.subset_def]

/-- What a committed edit makes of a sample. -/
structure SampleEdit.Outcome (e : SampleEdit) (f : RuleFile) (before : Sample)
    (impact : EditImpact) (retention : OrphanRetention) (after : Sample) : Prop where
  fields : after = { e.applyTo before with results := after.results }
  retained : retention = .retain → after.results = before.results
  discarded : retention = .discard →
    ∀ key, after.result? key = if key ∈ impact.removed then none else before.result? key
  /-- No findings are deleted that the impact does not name. -/
  announced : ∀ key x, before.result? key = some x → x.hasRecordedData = true →
    after.result? key = none → key ∈ impact.lostKeys
  lossless : impact.dataWillBeLost = false → ∀ key x, before.result? key = some x →
    x.hasRecordedData = true → after.result? key = some x
  immediate : impact.decision = .saveImmediately → after.results = before.results
  impact_again : (e.impact f after).changesRelevance = false
  commit_again : ∀ retention', e.commit f after (e.impact f after) retention' = .ok after

namespace SampleEdit

variable {e : SampleEdit} {f : RuleFile} {s : Sample} {impact : EditImpact}

theorem applyTo_applyTo (e : SampleEdit) (s : Sample) (results : KeyedMap RequirementResult) :
    e.applyTo { e.applyTo s with results } = { e.applyTo s with results } := by
  simp only [applyTo, Sample.mk.injEq, true_and]
  cases e.description <;> cases e.url <;> cases e.category <;> cases e.sampleType <;>
    cases e.selectedContentTypes <;> simp

/-- Relevance depends on the content types that the sample has after the edit, so an edit that
changes nothing has no impact. -/
theorem impact_of_applyTo_eq (h : e.applyTo s = s) :
    (e.impact f s).added = [] ∧ (e.impact f s).removed = [] := by
  simp only [impact, h, orderedDifference_eq_nil_iff, List.Subset.refl, and_self]

theorem commit_of_applyTo_eq (h : e.applyTo s = s) (retention : OrphanRetention) :
    e.commit f s (e.impact f s) retention = .ok s := by
  rw [commit, if_pos rfl, h, (impact_of_applyTo_eq h).2]
  cases retention <;> rfl

theorem mem_lostKeys {key : String} {x : RequirementResult} (hremoved : key ∈ (e.impact f s).removed)
    (hx : s.result? key = some x) (hdata : x.hasRecordedData = true) :
    key ∈ (e.impact f s).lostKeys := by
  refine List.mem_filter.mpr ⟨hremoved, ?_⟩
  rw [Sample.hasRecordedResult, hx]
  exact hdata

theorem removed_of_saveImmediately (h : impact.decision = .saveImmediately) :
    impact.removed = [] := by
  rw [EditImpact.decision] at h
  split at h
  · cases h
  · next hchange =>
    simp only [EditImpact.changesRelevance, Bool.or_eq_true, Bool.not_eq_true', not_or,
      Bool.not_eq_false, List.isEmpty_iff] at hchange
    exact hchange.2

/-- The results that a commit by this policy leaves. -/
def committedResults (impact : EditImpact) (retention : OrphanRetention) (s : Sample) :
    KeyedMap RequirementResult :=
  match retention with
  | .retain => s.results
  | .discard => impact.removed.foldl KeyedMap.erase s.results

theorem commit_eq (h : impact = e.impact f s) (retention : OrphanRetention) :
    e.commit f s impact retention =
      .ok { e.applyTo s with results := committedResults impact retention s } := by
  rw [commit, if_pos h.symm]
  cases retention <;> rfl

theorem get?_committedResults (impact : EditImpact) (retention : OrphanRetention) (s : Sample)
    (key : String) : (committedResults impact retention s).get? key =
      if retention = .discard ∧ key ∈ impact.removed then none else s.result? key := by
  cases retention with
  | retain => simp [committedResults, Sample.result?]
  | discard => simp [committedResults, KeyedMap.get?_foldl_erase, Sample.result?]

/-- A commit succeeds exactly with the current impact, and then loses only what was announced. -/
theorem commit_outcome (e : SampleEdit) (f : RuleFile) (s : Sample) (impact : EditImpact)
    (retention : OrphanRetention) :
    (impact = e.impact f s → ∃ after, e.commit f s impact retention = .ok after ∧
      e.Outcome f s impact retention after) ∧
    (impact ≠ e.impact f s → e.commit f s impact retention = .error (.staleImpact s.id)) := by
  refine ⟨fun h => ⟨_, commit_eq h retention, ?_⟩, fun h => ?_⟩
  · have hfixed := applyTo_applyTo e s (committedResults impact retention s)
    have hlost : ∀ key x, s.result? key = some x → x.hasRecordedData = true →
        key ∈ impact.removed → key ∈ impact.lostKeys := by
      intro key x hx hdata hremoved
      subst h
      exact mem_lostKeys hremoved hx hdata
    constructor
    case fields => rfl
    case retained => rintro rfl; rfl
    case discarded =>
      intro hdiscard key
      rw [Sample.result?, get?_committedResults]
      simp only [hdiscard, true_and]
    case announced =>
      intro key x hx hdata hnone
      rw [Sample.result?, get?_committedResults] at hnone
      split at hnone
      · next hgone => exact hlost key x hx hdata hgone.2
      · rw [hx] at hnone
        cases hnone
    case lossless =>
      intro hloss key x hx hdata
      rw [Sample.result?, get?_committedResults, if_neg, hx]
      rintro ⟨-, hremoved⟩
      have hmem := hlost key x hx hdata hremoved
      subst h
      have hnil : (e.impact f s).lostKeys = [] := by simpa [SampleEdit.impact] using hloss
      rw [hnil] at hmem
      cases hmem
    case immediate =>
      intro hdecision
      show committedResults impact retention s = s.results
      cases retention with
      | retain => rfl
      | discard => rw [committedResults, removed_of_saveImmediately hdecision, List.foldl_nil]
    case impact_again =>
      obtain ⟨hadded, hremoved⟩ := impact_of_applyTo_eq (f := f) hfixed
      simp [EditImpact.changesRelevance, hadded, hremoved]
    case commit_again => exact commit_of_applyTo_eq hfixed
  · rw [commit, if_neg (Ne.symm h)]

end SampleEdit

end Conformance
