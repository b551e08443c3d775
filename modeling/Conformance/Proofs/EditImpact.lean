import Conformance.Sample.Impact
import Mathlib.Data.Finset.Dedup
import Mathlib.Data.Finset.SDiff

/-! The impact of an edit, exactly. What an impact lists as added, removed and lost are subsequences
of the relevant keys after the edit, of those before it, and of the removed ones, each with every
occurrence of its keys; from what was relevant before, they give what is relevant after. Relevance
reads nothing of a sample but its content types, so an edit that puts these back has the same two
lists in exchanged roles, whatever else it changes and whatever became of the results. -/

namespace Conformance

open scoped List

/-- The list is the subsequence of `keys` made of all those with the property. -/
structure Picks (keys : List String) (p : String → Prop) (picked : List String) : Prop where
  sublist : picked <+ keys
  mem_iff : ∀ key, key ∈ picked ↔ key ∈ keys ∧ p key
  count : ∀ key ∈ picked, picked.count key = keys.count key

theorem picks_filter {keys : List String} {p : String → Prop} {keep : String → Bool}
    (h : ∀ key, keep key = true ↔ p key) : Picks keys p (keys.filter keep) where
  sublist := List.filter_sublist
  mem_iff key := by rw [List.mem_filter, h]
  count _ hmem := List.count_filter (List.mem_filter.mp hmem).2

theorem picks_orderedDifference (keys other : List String) :
    Picks keys (· ∉ other) (orderedDifference keys other) :=
  picks_filter fun key => by simp

/-- What the impact says of an edit that makes `after` of the sample `before`. -/
structure EditImpact.Exact (impact : EditImpact) (f : RuleFile) (before after : Sample) : Prop where
  sampleId : impact.sampleId = before.id
  added : Picks (f.relevantKeys after) (· ∉ f.relevantKeys before) impact.added
  removed : Picks (f.relevantKeys before) (· ∉ f.relevantKeys after) impact.removed
  disjoint : impact.added.Disjoint impact.removed
  relevant_after : (f.relevantKeys after).toFinset =
    (f.relevantKeys before).toFinset \ impact.removed.toFinset ∪ impact.added.toFinset
  lost : Picks impact.removed
    (fun key => ∃ x, before.result? key = some x ∧ x.hasRecordedData = true) impact.lostKeys
  dataWillBeLost_iff : impact.dataWillBeLost = true ↔ impact.lostKeys ≠ []

section Difference

variable {before after added removed : List String}

theorem Picks.disjoint (hadded : Picks after (· ∉ before) added)
    (hremoved : Picks before (· ∉ after) removed) : added.Disjoint removed := by
  intro key hnew hold
  exact ((hadded.mem_iff key).mp hnew).2 ((hremoved.mem_iff key).mp hold).1

/-- Dropping the removed keys and putting in the added ones leads from one set to the other. -/
theorem Picks.toFinset_after (hadded : Picks after (· ∉ before) added)
    (hremoved : Picks before (· ∉ after) removed) :
    after.toFinset = before.toFinset \ removed.toFinset ∪ added.toFinset := by
  ext key
  simp only [Finset.mem_union, Finset.mem_sdiff, List.mem_toFinset, hadded.mem_iff,
    hremoved.mem_iff]
  by_cases hbefore : key ∈ before
  · simp [hbefore]
  · simp [hbefore]

end Difference

theorem RuleFile.relevantKeys_of_selection (f : RuleFile) {s t : Sample}
    (h : s.selectedContentTypes = t.selectedContentTypes) : f.relevantKeys s = f.relevantKeys t := by
  rw [relevantKeys, relevantKeys, relevant, relevant, h]

theorem Sample.hasRecordedResult_iff {s : Sample} {key : String} :
    s.hasRecordedResult key = true ↔
      ∃ x, s.result? key = some x ∧ x.hasRecordedData = true := by
  rw [hasRecordedResult, Option.any_eq_true]

namespace SampleEdit

/-- The edit, with the content types put back to those of the sample. -/
def restoring (other : SampleEdit) (s : Sample) : SampleEdit :=
  { other with selectedContentTypes := some s.selectedContentTypes }

theorem exact_impact (e : SampleEdit) (f : RuleFile) (s : Sample) :
    (e.impact f s).Exact f s (e.applyTo s) := by
  have hadded := picks_orderedDifference (f.relevantKeys (e.applyTo s)) (f.relevantKeys s)
  have hremoved := picks_orderedDifference (f.relevantKeys s) (f.relevantKeys (e.applyTo s))
  constructor
  case sampleId => rfl
  case added => exact hadded
  case removed => exact hremoved
  case disjoint => exact hadded.disjoint hremoved
  case relevant_after => exact hadded.toFinset_after hremoved
  case lost => exact picks_filter fun _ => Sample.hasRecordedResult_iff
  case dataWillBeLost_iff => simp [impact]

/-- The impact of an edit is exact, and that of an edit that puts the content types back, on the
edited sample with any results, has the same lists exchanged. -/
theorem impact_exact_reversible (e : SampleEdit) (f : RuleFile) (s : Sample) :
    (e.impact f s).Exact f s (e.applyTo s) ∧
    ∀ (other : SampleEdit) (results : KeyedMap RequirementResult),
      ((other.restoring s).impact f { e.applyTo s with results }).added =
        (e.impact f s).removed ∧
      ((other.restoring s).impact f { e.applyTo s with results }).removed =
        (e.impact f s).added := by
  refine ⟨exact_impact e f s, fun other results => ?_⟩
  have hedited : f.relevantKeys { e.applyTo s with results } = f.relevantKeys (e.applyTo s) :=
    f.relevantKeys_of_selection rfl
  have hrestored : f.relevantKeys ((other.restoring s).applyTo { e.applyTo s with results }) =
      f.relevantKeys s :=
    f.relevantKeys_of_selection rfl
  simp only [impact, hedited, hrestored, and_self]

end SampleEdit

end Conformance
