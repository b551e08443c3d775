import Conformance.Proofs.Operation
import Conformance.Proofs.Prediction

/-! What a report without loss protects when the audit was edited after the report was made. The
report is bound to the two rule files by their fingerprints, and not to the results that it was
computed from. So results under the keys that held findings at that time are safe, and findings that
were recorded since, under a key that the new file lacks, are dropped without a warning. -/

namespace Conformance

namespace Audit

/-- Some sample holds findings under `key`. -/
def HasRecorded (a : Audit) (key : String) : Prop := ∃ s ∈ a.samples, s.hasRecordedResult key = true

/-- Every result of `a` with findings stands in `b` at the same position and key, with nothing but
its review flag changed. -/
def RecordedSurvives (a b : Audit) : Prop :=
  ∀ (i : Nat) (s : Sample) (key : String) (x : RequirementResult), a.samples[i]? = some s →
    s.result? key = some x → x.hasRecordedData = true →
    ∃ t flag, b.samples[i]? = some t ∧ t.result? key = some { x with needsReview := flag }

variable {a b : Audit} {new : RuleFile} {s : Sample} {key : String} {x : RequirementResult}

theorem contains_of_hasRecorded (hreport : (a.changeReport new).dataWillBeLost = false)
    (hkey : a.HasRecorded key) : new.contains key = true := by
  by_contra hlost
  obtain ⟨s, hs, hrecorded⟩ := hkey
  obtain ⟨x, hx, hdata⟩ := Option.any_eq_true _ _ |>.mp hrecorded
  have hloss := dataWillBeLost_changeReport.mpr ⟨s, hs, key, x, hx, hlost, hdata⟩
  rw [hreport] at hloss
  cases hloss

theorem exists_result?_reconcile {i : Nat} (hs : a.samples[i]? = some s)
    (hx : s.result? key = some x) (hnew : new.contains key = true) :
    ∃ t flag, (a.reconcile new).samples[i]? = some t ∧
      t.result? key = some { x with needsReview := flag } := by
  refine ⟨s.reconcile a.ruleFile new, ?_⟩
  rw [getElem?_reconcile hs, Sample.result?_reconcile, hx, Option.bind_some]
  by_cases hu : a.ruleFile.Unsettles new key
  · exact ⟨true, rfl, by rw [disposition_of_unsettles hu]; rfl⟩
  · exact ⟨x.needsReview, rfl, by rw [disposition_of_not_unsettles hnew hu]; rfl⟩

/-- Whether findings are lost is what a report made at the time of the update says. -/
theorem recordedSurvives_reconcile_iff :
    a.RecordedSurvives (a.reconcile new) ↔ (a.changeReport new).dataWillBeLost = false := by
  constructor
  · intro hkeep
    by_contra hloss
    obtain ⟨i, s, t, key, x, hs, ht, hx, hnone, hdata⟩ :=
      dataWillBeLost_iff.mp (eq_true_of_ne_false hloss)
    obtain ⟨u, flag, hu, hget⟩ := hkeep i s key x hs hx hdata
    obtain rfl : t = u := Option.some.inj (ht.symm.trans hu)
    rw [hnone] at hget
    cases hget
  · intro hreport i s key x hs hx hdata
    have hkey : a.HasRecorded key :=
      ⟨s, List.mem_of_getElem? hs, by simp [Sample.hasRecordedResult, hx, hdata]⟩
    exact exists_result?_reconcile hs hx (contains_of_hasRecorded hreport hkey)

/-- A report without loss, made for `a` and accepted for `b`: every result under a key that held
findings in `a` is kept, and all findings of `b` are kept exactly if the same report made for `b`
shows no loss either. -/
theorem kept_of_lossless_report {next : Audit}
    (hreport : (a.changeReport new).dataWillBeLost = false)
    (happly : b.applyRuleFile new (a.changeReport new) = .ok next) :
    (∀ (i : Nat) (s : Sample) (key : String) (x : RequirementResult), a.HasRecorded key →
      b.samples[i]? = some s → s.result? key = some x →
      ∃ t flag, next.samples[i]? = some t ∧ t.result? key = some { x with needsReview := flag }) ∧
    (b.RecordedSurvives next ↔ (b.changeReport new).dataWillBeLost = false) := by
  obtain ⟨-, rfl⟩ := eq_reconcile_of_applyRuleFile happly
  refine ⟨fun i s key x hkey hs hx => ?_, recordedSurvives_reconcile_iff⟩
  exact exists_result?_reconcile hs hx (contains_of_hasRecorded hreport hkey)

end Audit

namespace Specimen

theorem remark_kept_survives : ∃ edited next, audit.perform (remark "kept") = some edited ∧
    (audit.changeReport second).dataWillBeLost = false ∧
    edited.applyRuleFile second (audit.changeReport second) = .ok next ∧
    audit.HasRecorded "kept" ∧ edited.RecordedSurvives next := by
  obtain ⟨edited, hedited⟩ : ∃ edited, audit.perform (remark "kept") = some edited := ⟨_, rfl⟩
  have hreport : (audit.changeReport second).dataWillBeLost = false := by decide
  have hfile : edited.ruleFile = audit.ruleFile := by
    obtain rfl := Option.some.inj hedited
    rfl
  have happly := Audit.applyRuleFile_of_ruleFile_eq hfile (show second.validate = .ok () by decide)
  have hkey : audit.HasRecorded "kept" := ⟨_, List.mem_cons_self, by decide⟩
  have hagain : (edited.changeReport second).dataWillBeLost = false := by
    obtain rfl := Option.some.inj hedited
    decide
  exact ⟨edited, _, hedited, hreport, happly, hkey,
    (Audit.kept_of_lossless_report hreport happly).2.mpr hagain⟩

/-- The report shows no loss and is accepted, and the remark made since is lost. -/
theorem remark_gone_lost : ∃ edited next s t x, audit.perform (remark "gone") = some edited ∧
    (audit.changeReport second).dataWillBeLost = false ∧
    edited.applyRuleFile second (audit.changeReport second) = .ok next ∧
    edited.samples[0]? = some s ∧ s.result? "gone" = some x ∧ x.hasRecordedData = true ∧
    next.samples[0]? = some t ∧ t.result? "gone" = none := by
  obtain ⟨edited, hedited⟩ : ∃ edited, audit.perform (remark "gone") = some edited := ⟨_, rfl⟩
  have hfile : edited.ruleFile = audit.ruleFile := by
    obtain rfl := Option.some.inj hedited
    rfl
  have happly := Audit.applyRuleFile_of_ruleFile_eq hfile (show second.validate = .ok () by decide)
  obtain ⟨s, x, hs, hx, hdata⟩ : ∃ s x, edited.samples[0]? = some s ∧
      s.result? "gone" = some x ∧ x.hasRecordedData = true := by
    obtain rfl := Option.some.inj hedited
    exact ⟨_, _, rfl, rfl, by decide⟩
  have hlost : (s.reconcile edited.ruleFile second).result? "gone" = none :=
    (Sample.result?_reconcile_eq_none hx).mpr (by decide)
  exact ⟨edited, _, s, _, x, hedited, by decide, happly, hs, hx, hdata, Audit.getElem?_reconcile hs,
    hlost⟩

end Specimen

end Conformance
