import Conformance.Proofs.Prediction
import Conformance.Proofs.SummaryLevels
import Conformance.Proofs.Validity

/-! What an update flags, counted in the report and in the statistics afterwards. The report counts
over the old requirements and over the results that they leave out, the statistics over the
requirements of the new file that are relevant to each sample. Where no review was pending, the
statistics count the flagged results that are relevant, and the report all of them. -/

namespace Conformance

/-- The requirement under `key` is relevant to the sample. -/
def RuleFile.appliesTo (f : RuleFile) (key : String) (s : Sample) : Bool :=
  (f.requirement? key).any (·.isRelevant s.selectedContentTypes)

/-- The results of the sample that become pending on the way to `t`. -/
def Sample.flaggedKeys (s t : Sample) : List String :=
  s.results.keys.filter fun key => !s.pending key && t.pending key

/-- The results that become pending between two audits, each with the sample that it is stored on. -/
def Audit.flaggedBetween (a b : Audit) : List (Sample × String) :=
  (a.samples.zip b.samples).flatMap fun p => (p.1.flaggedKeys p.2).map fun key => (p.1, key)

section Sample

variable {s : Sample} {old new : RuleFile} {key : String} {x : RequirementResult}

theorem RuleFile.mem_relevantKeys (hkeys : new.keys.Nodup) :
    key ∈ new.relevantKeys s ↔ new.appliesTo key s = true := by
  simp only [relevantKeys, relevant, List.mem_map, List.mem_filter, appliesTo, Option.any_eq_true]
  constructor
  · rintro ⟨r, ⟨hr, hrelevant⟩, rfl⟩
    exact ⟨r, requirement?_of_mem hkeys hr, hrelevant⟩
  · rintro ⟨r, hr, hrelevant⟩
    exact ⟨r, ⟨mem_of_requirement? hr, hrelevant⟩, key_of_requirement? hr⟩

theorem RuleFile.relevantKeys_nodup (hkeys : new.keys.Nodup) : (new.relevantKeys s).Nodup :=
  hkeys.sublist (List.filter_sublist.map _)

/-- After an update a review is pending if it was before, or if the key has another meaning now. -/
theorem Sample.pending_reconcile (hget : s.result? key = some x) :
    (s.reconcile old new).pending key = true ↔
      new.contains key = true ∧ (x.needsReview = true ∨ old.Unsettles new key) := by
  rw [pending, result?_reconcile, hget, Option.bind_some]
  by_cases hnew : new.contains key = true
  · by_cases hu : old.Unsettles new key
    · rw [disposition_of_unsettles hu]
      exact iff_of_true rfl ⟨hnew, .inr hu⟩
    · rw [disposition_of_not_unsettles hnew hu]
      simp [Disposition.apply, hnew, hu]
  · rw [disposition_of_not_contains hnew]
    simp [Disposition.apply, hnew]

theorem Sample.isSome_of_pending_reconcile (h : (s.reconcile old new).pending key = true) :
    (s.result? key).isSome := by
  rw [pending, result?_reconcile] at h
  cases hget : s.result? key with
  | none =>
    rw [hget] at h
    cases h
  | some x => rfl

theorem Sample.mem_flaggedKeys_reconcile (hcalm : ∀ key, s.pending key = false) :
    key ∈ s.flaggedKeys (s.reconcile old new) ↔ (s.reconcile old new).pending key = true := by
  simp only [flaggedKeys, List.mem_filter, hcalm, Bool.not_false, Bool.true_and]
  exact and_iff_right_of_imp fun h => mem_keys_iff.mpr (isSome_of_pending_reconcile h)

/-- The pending reviews of a sample that had none are the flagged results that are relevant to it. -/
theorem Sample.pendingCount_reconcile (hkeys : new.keys.Nodup)
    (hcalm : ∀ key, s.pending key = false) :
    (s.reconcile old new).pendingCount new =
      (s.flaggedKeys (s.reconcile old new)).countP fun key => new.appliesTo key s := by
  -- Neither the relevant keys nor the flagged ones repeat, so that those in both lists can be counted
  -- along either of them.
  calc (s.reconcile old new).pendingCount new
      = (new.relevantKeys s).countP (s.reconcile old new).pending := by
        rw [RuleFile.relevantKeys, List.countP_map]
        rfl
    _ = (new.relevantKeys s).countP fun key =>
          decide (key ∈ s.flaggedKeys (s.reconcile old new)) := by
        simp only [mem_flaggedKeys_reconcile hcalm, Bool.decide_eq_true]
    _ = (s.flaggedKeys (s.reconcile old new)).countP fun key =>
          decide (key ∈ new.relevantKeys s) :=
        Counting.countP_mem_comm (RuleFile.relevantKeys_nodup hkeys) (s.results.keys_nodup.filter _)
    _ = _ := by simp only [RuleFile.mem_relevantKeys hkeys, Bool.decide_eq_true]

end Sample

namespace Audit

variable {a : Audit} {new : RuleFile}

theorem flaggedBetween_reconcile : a.flaggedBetween (a.reconcile new) =
    a.samples.flatMap fun s =>
      (s.flaggedKeys (s.reconcile a.ruleFile new)).map fun key => (s, key) := by
  rw [flaggedBetween, reconcile, List.zip_map_right, List.flatMap_map, List.zip_eq_zipWith,
    List.zipWith_self, List.flatMap_map]
  rfl

theorem length_flaggedBetween (new : RuleFile) (hkeys : a.ruleFile.keys.Nodup)
    (hcalm : ∀ s ∈ a.samples, ∀ key, s.pending key = false) :
    (a.flaggedBetween (a.reconcile new)).length = (a.changeReport new).flaggedResultCount := by
  rw [flaggedBetween_reconcile, flaggedResultCount_changeReport hkeys, List.length_flatMap]
  refine congrArg List.sum (List.map_congr_left fun s hs => ?_)
  rw [List.length_map, Sample.flaggedKeys, ← List.countP_eq_length_filter, ← Sample.countP_entries]
  -- Entry by entry: pending afterwards is what the report flags and does not drop.
  refine List.countP_congr fun e he => ?_
  have hget : s.result? e.1 = some e.2 := KeyedMap.mem_entries_iff.mp he
  have hsettled : e.2.needsReview = false := by simpa [Sample.pending, hget] using hcalm s hs e.1
  rw [hcalm s hs, Bool.not_false, Bool.true_and, decide_eq_true_eq, changeReport_drops_iff hs hget,
    changeReport_flags_iff hkeys hs hget, Sample.pending_reconcile hget, hsettled, not_not]
  simp

theorem needsReview_summary_reconcile (hkeys : new.keys.Nodup)
    (hcalm : ∀ s ∈ a.samples, ∀ key, s.pending key = false) :
    (a.reconcile new).summary.totals.needsReview =
      (a.flaggedBetween (a.reconcile new)).countP fun p => new.appliesTo p.2 p.1 := by
  rw [(a.reconcile new).tallies_summary.needsReview_eq, flaggedBetween_reconcile, List.countP_flatMap]
  show ((a.samples.map (Sample.reconcile a.ruleFile new)).map (Sample.pendingCount new)).sum = _
  rw [List.map_map]
  refine congrArg List.sum (List.map_congr_left fun s hs => ?_)
  rw [Function.comp_apply, Sample.pendingCount_reconcile hkeys (hcalm s hs), Function.comp_apply,
    List.countP_map]
  rfl

/-- After an update of an audit without pending reviews, the statistics count the flagged results that
are relevant to their sample, and the report counts all of them. -/
theorem review_counts (hcalm : ∀ s ∈ a.samples, ∀ e ∈ s.results.entries, e.2.needsReview = false)
    (hkeys : a.ruleFile.keys.Nodup) (hnew : new.validate = .ok ()) :
    ∃ next, a.applyRuleFile new (a.changeReport new) = .ok next ∧
      next.summary.totals.needsReview =
        (a.flaggedBetween next).countP (fun p => new.appliesTo p.2 p.1) ∧
      (a.changeReport new).flaggedResultCount = (a.flaggedBetween next).length ∧
      next.summary.totals.needsReview ≤ (a.changeReport new).flaggedResultCount ∧
      (next.summary.totals.needsReview = (a.changeReport new).flaggedResultCount ↔
        ∀ p ∈ a.flaggedBetween next, new.appliesTo p.2 p.1 = true) := by
  have hpending : ∀ s ∈ a.samples, ∀ key, s.pending key = false := by
    intro s hs key
    rw [Sample.pending, Option.any_eq_false]
    exact fun x hget => hcalm s hs (key, x) (KeyedMap.mem_entries_iff.mpr hget)
  have hrelevant := needsReview_summary_reconcile (RuleFile.keys_nodup_of_validate hnew) hpending
  have hall := length_flaggedBetween new hkeys hpending
  refine ⟨a.reconcile new, applyRuleFile_changeReport hnew, hrelevant, hall.symm, ?_, ?_⟩
  · rw [hrelevant, ← hall]
    exact List.countP_le_length
  · rw [hrelevant, ← hall]
    exact List.countP_eq_length

end Audit

namespace Specimen

/-- Two results under keys that only the second rule file defines. One of the two requirements is on
images, which the page does not have. -/
def awaitingSecond : Audit where
  ruleFile := { first with requirements := [gone] }
  samples :=
    [{ id := "page"
       selectedContentTypes := ["video"]
       results := .ofList [("back", {}), ("gone", {}), ("kept", {})] }]

theorem counts_of_second :
    (∀ s ∈ awaitingSecond.samples, ∀ e ∈ s.results.entries, e.2.needsReview = false) ∧
    awaitingSecond.ruleFile.keys.Nodup ∧ second.validate = .ok () ∧
    ∃ next, awaitingSecond.applyRuleFile second (awaitingSecond.changeReport second) = .ok next ∧
      next.summary.totals.needsReview =
        (awaitingSecond.flaggedBetween next).countP (fun p => second.appliesTo p.2 p.1) ∧
      (awaitingSecond.changeReport second).flaggedResultCount =
        (awaitingSecond.flaggedBetween next).length ∧
      next.summary.totals.needsReview ≤ (awaitingSecond.changeReport second).flaggedResultCount ∧
      (next.summary.totals.needsReview = (awaitingSecond.changeReport second).flaggedResultCount ↔
        ∀ p ∈ awaitingSecond.flaggedBetween next, second.appliesTo p.2 p.1 = true) := by
  have hcalm : ∀ s ∈ awaitingSecond.samples, ∀ e ∈ s.results.entries, e.2.needsReview = false := by
    decide
  have hkeys : awaitingSecond.ruleFile.keys.Nodup := by decide
  have hnew : second.validate = .ok () := by decide
  exact ⟨hcalm, hkeys, hnew, Audit.review_counts hcalm hkeys hnew⟩

example : (awaitingSecond.reconcile second).summary.totals.needsReview = 1 ∧
    (awaitingSecond.changeReport second).flaggedResultCount = 2 := by decide

end Specimen

end Conformance
