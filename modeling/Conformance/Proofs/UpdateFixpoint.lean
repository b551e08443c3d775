import Conformance.Proofs.Prediction
import Conformance.Proofs.Validity

/-! One update is enough. It leaves no result without a requirement, and an audit without such
results is a fixed point of the update to its own rule file: the report on that is empty, and
applying it changes nothing. -/

namespace Conformance

/-- An empty report announces neither a loss nor a review. -/
theorem ChangeReport.harmless_of_isEmpty {report : ChangeReport} (h : report.isEmpty = true) :
    report.dataWillBeLost = false ∧ report.flaggedResultCount = 0 := by
  simp only [isEmpty, Bool.and_eq_true, List.isEmpty_iff] at h
  obtain ⟨⟨⟨⟨-, hupdated⟩, hremoved⟩, horphaned⟩, hreappearing⟩ := h
  simp [dataWillBeLost, flaggedResultCount, hupdated, hremoved, horphaned, hreappearing]

namespace Audit

variable {a : Audit} {new : RuleFile}

/-- Every stored result has its requirement in the active rule file. -/
def Aligned (a : Audit) : Prop := ∀ s ∈ a.samples, ∀ key ∈ s.results.keys, key ∈ a.ruleFile.keys

instance (a : Audit) : Decidable a.Aligned :=
  inferInstanceAs (Decidable (∀ s ∈ a.samples, ∀ key ∈ s.results.keys, key ∈ a.ruleFile.keys))

theorem aligned_reconcile : (a.reconcile new).Aligned := by
  intro t ht key hkey
  obtain ⟨s, -, rfl⟩ := List.mem_map.mp ht
  rw [Sample.keys_reconcile, List.mem_filter] at hkey
  exact RuleFile.contains_iff.mp hkey.2

theorem unmatchedResults_of_aligned (h : a.Aligned) : a.unmatchedResults = [] := by
  rw [List.eq_nil_iff_forall_not_mem]
  intro x hx
  obtain ⟨s, hs, key, y, hget, hlost, -⟩ := mem_unmatchedResults.mp hx
  have hkey : key ∈ s.results.keys := Sample.mem_keys_iff.mpr (Option.isSome_of_eq_some hget)
  exact hlost (RuleFile.contains_iff.mpr (h s hs key hkey))

/-- With distinct keys, every requirement of the file is the one that is found under its key, so
comparing the file with itself finds no difference. -/
theorem isEmpty_changeReport_self (hkeys : a.ruleFile.keys.Nodup) (h : a.Aligned) :
    (a.changeReport a.ruleFile).isEmpty = true := by
  have hadded : a.ruleFile.requirements.filter (fun r => !a.ruleFile.contains r.key) = [] := by
    rw [List.filter_eq_nil_iff]
    intro r hr
    simp [RuleFile.contains_of_mem hr]
  have hupdated : a.ruleFile.requirements.filterMap (a.updatedEntry a.ruleFile) = [] := by
    rw [List.filterMap_eq_nil_iff]
    intro r hr
    rw [updatedEntry, RuleFile.requirement?_of_mem hkeys hr, Option.bind_eq_bind, Option.bind_some,
      if_pos rfl]
  have hremoved : a.ruleFile.requirements.filterMap (a.removedEntry a.ruleFile) = [] := by
    rw [List.filterMap_eq_nil_iff]
    intro r hr
    rw [removedEntry, if_pos (RuleFile.contains_of_mem hr)]
  simp [ChangeReport.isEmpty, changeReport, hadded, hupdated, hremoved,
    unmatchedResults_of_aligned h]

/-- An aligned audit is a fixed point of the update to its own rule file. -/
theorem reconcile_self (hkeys : a.ruleFile.keys.Nodup) (h : a.Aligned) :
    a.reconcile a.ruleFile = a := by
  obtain ⟨hsamples, htombstones⟩ :=
    reconcile_of_isEmpty hkeys (isEmpty_changeReport_self hkeys h)
  calc a.reconcile a.ruleFile
      = ⟨a.ruleFile, (a.reconcile a.ruleFile).samples, (a.reconcile a.ruleFile).tombstones⟩ := rfl
    _ = a := by rw [hsamples, htombstones]

/-- After an update to a valid file, whatever the audit was before, the same update has an empty
report and changes nothing. -/
theorem applyRuleFile_fixpoint (a : Audit) (hnew : new.validate = .ok ()) :
    ∃ next, a.applyRuleFile new (a.changeReport new) = .ok next ∧
      (next.changeReport new).isEmpty = true ∧ (next.changeReport new).dataWillBeLost = false ∧
      (next.changeReport new).flaggedResultCount = 0 ∧
      next.applyRuleFile new (next.changeReport new) = .ok next := by
  have hkeys : (a.reconcile new).ruleFile.keys.Nodup := RuleFile.keys_nodup_of_validate hnew
  have hempty : ((a.reconcile new).changeReport new).isEmpty = true :=
    isEmpty_changeReport_self hkeys aligned_reconcile
  obtain ⟨hloss, hflagged⟩ := ChangeReport.harmless_of_isEmpty hempty
  refine ⟨a.reconcile new, applyRuleFile_changeReport hnew, hempty, hloss, hflagged, ?_⟩
  rw [applyRuleFile_changeReport hnew]
  exact congrArg Except.ok (reconcile_self hkeys aligned_reconcile)

end Audit

namespace Specimen

/-- The specimen under a rule file that repeats a key with another definition. -/
def repeatedKeys : Audit :=
  { audit with ruleFile := { first with requirements := [kept, gone, { kept with checks := [] }] } }

theorem fixpoint_of_repeatedKeys : ¬repeatedKeys.ruleFile.keys.Nodup ∧ ¬repeatedKeys.Aligned ∧
    second.validate = .ok () ∧
    ∃ next, repeatedKeys.applyRuleFile second (repeatedKeys.changeReport second) = .ok next ∧
      (next.changeReport second).isEmpty = true ∧
      (next.changeReport second).dataWillBeLost = false ∧
      (next.changeReport second).flaggedResultCount = 0 ∧
      next.applyRuleFile second (next.changeReport second) = .ok next := by
  have hvalid : second.validate = .ok () := by decide
  exact ⟨by decide, by decide, hvalid, Audit.applyRuleFile_fixpoint repeatedKeys hvalid⟩

end Specimen

end Conformance
