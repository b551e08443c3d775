import Conformance.Proofs.RuleFileUpdate

/-! When an update is refused. The new rule file is checked first, then the report against the old
file, then against the new one. No stored result refuses an update that passes these checks. -/

namespace Conformance

namespace ChangeReport

/-- The fingerprints in which a report first disagrees with two rule files: the one that it expects
and the one that the file has. -/
inductive Mismatch (report : ChangeReport) (old new : RuleFile) : String → String → Prop
  | base (hbase : report.baseFingerprint ≠ Fingerprint.ruleFile old) :
    Mismatch report old new report.baseFingerprint (Fingerprint.ruleFile old)
  | target (hbase : report.baseFingerprint = Fingerprint.ruleFile old)
      (htarget : report.targetFingerprint ≠ Fingerprint.ruleFile new) :
    Mismatch report old new report.targetFingerprint (Fingerprint.ruleFile new)

variable {report : ChangeReport} {old new : RuleFile}

theorem verify_of_mismatch {expected actual : String} (h : report.Mismatch old new expected actual) :
    report.verify old new = .error (.reportMismatch expected actual) := by
  unfold verify
  cases h with
  | base hbase => rw [if_pos hbase.symm]
  | target hbase htarget => rw [if_neg (not_not.mpr hbase.symm), if_pos htarget.symm]

theorem agrees_or_mismatch (report : ChangeReport) (old new : RuleFile) :
    (report.baseFingerprint = Fingerprint.ruleFile old ∧
      report.targetFingerprint = Fingerprint.ruleFile new) ∨
    ∃ expected actual, report.Mismatch old new expected actual := by
  by_cases hbase : report.baseFingerprint = Fingerprint.ruleFile old
  · by_cases htarget : report.targetFingerprint = Fingerprint.ruleFile new
    · exact .inl ⟨hbase, htarget⟩
    · exact .inr ⟨_, _, .target hbase htarget⟩
  · exact .inr ⟨_, _, .base hbase⟩

end ChangeReport

section Outcome

variable {a : Audit} {new : RuleFile} {report : ChangeReport}

theorem Audit.applyRuleFile_of_mismatch {expected actual : String} (hvalid : new.validate = .ok ())
    (h : report.Mismatch a.ruleFile new expected actual) :
    a.applyRuleFile new report = .error (.reportMismatch expected actual) := by
  rw [applyRuleFile_of_valid report hvalid, ChangeReport.verify_of_mismatch h]
  rfl

theorem Audit.applyRuleFile_of_agrees (hvalid : new.validate = .ok ())
    (hbase : report.baseFingerprint = Fingerprint.ruleFile a.ruleFile)
    (htarget : report.targetFingerprint = Fingerprint.ruleFile new) :
    a.applyRuleFile new report = .ok (a.reconcile new) :=
  applyRuleFile_eq_ok_iff.mpr ⟨hvalid, ⟨hbase.symm, htarget.symm⟩, rfl⟩

/-- An update has three outcomes: the file is refused, or the report, or it is carried out. -/
theorem Audit.applyRuleFile_cases (a : Audit) (new : RuleFile) (report : ChangeReport) :
    (∃ e, new.validate = .error e ∧ a.applyRuleFile new report = .error (.invalidRuleFile e)) ∨
    (new.validate = .ok () ∧ ∃ expected actual, report.Mismatch a.ruleFile new expected actual ∧
      a.applyRuleFile new report = .error (.reportMismatch expected actual)) ∨
    a.applyRuleFile new report = .ok (a.reconcile new) := by
  cases hvalid : new.validate with
  | error e => exact .inl ⟨e, rfl, applyRuleFile_of_invalid report hvalid⟩
  | ok =>
    rcases report.agrees_or_mismatch a.ruleFile new with ⟨hb, ht⟩ | ⟨expected, actual, hmismatch⟩
    · exact .inr (.inr (applyRuleFile_of_agrees hvalid hb ht))
    · exact .inr (.inl ⟨rfl, expected, actual, hmismatch, applyRuleFile_of_mismatch hvalid hmismatch⟩)

theorem Audit.applyRuleFile_eq_invalid_iff {e : RuleFileError} :
    a.applyRuleFile new report = .error (.invalidRuleFile e) ↔ new.validate = .error e := by
  refine ⟨fun h => ?_, applyRuleFile_of_invalid report⟩
  rcases a.applyRuleFile_cases new report with ⟨e', hvalid, h'⟩ | ⟨-, _, _, -, h'⟩ | h'
  · obtain rfl : e' = e := by simpa [h'] using h
    exact hvalid
  · simp [h'] at h
  · simp [h'] at h

theorem Audit.applyRuleFile_eq_mismatch_iff {expected actual : String} :
    a.applyRuleFile new report = .error (.reportMismatch expected actual) ↔
      new.validate = .ok () ∧ report.Mismatch a.ruleFile new expected actual := by
  refine ⟨fun h => ?_, fun h => applyRuleFile_of_mismatch h.1 h.2⟩
  rcases a.applyRuleFile_cases new report with ⟨_, -, h'⟩ | ⟨hvalid, _, _, hmismatch, h'⟩ | h'
  · simp [h'] at h
  · obtain ⟨rfl, rfl⟩ : _ = expected ∧ _ = actual := by simpa [h'] using h
    exact ⟨hvalid, hmismatch⟩
  · simp [h'] at h

theorem Audit.exists_applyRuleFile_iff :
    (∃ next, a.applyRuleFile new report = .ok next) ↔
      new.validate = .ok () ∧ report.baseFingerprint = Fingerprint.ruleFile a.ruleFile ∧
        report.targetFingerprint = Fingerprint.ruleFile new := by
  constructor
  · rintro ⟨next, h⟩
    obtain ⟨hvalid, ⟨hbase, htarget⟩, -⟩ := applyRuleFile_eq_ok_iff.mp h
    exact ⟨hvalid, hbase.symm, htarget.symm⟩
  · rintro ⟨hvalid, hbase, htarget⟩
    exact ⟨_, applyRuleFile_of_agrees hvalid hbase htarget⟩

theorem Audit.applyRuleFile_ne_lifecycle (e : LifecycleError) :
    a.applyRuleFile new report ≠ .error (.lifecycle e) := by
  rcases a.applyRuleFile_cases new report with ⟨_, -, h⟩ | ⟨-, _, _, -, h⟩ | h <;> simp [h]

/-- An update fails on its checks alone, in their order, and with the error of the check. No status
of a stored result makes it fail. With the report on this very update the new file alone decides. -/
theorem Audit.applyRuleFile_outcome (a : Audit) (new : RuleFile) (report : ChangeReport) :
    (∀ e, a.applyRuleFile new report = .error (.invalidRuleFile e) ↔ new.validate = .error e) ∧
    (∀ expected actual, a.applyRuleFile new report = .error (.reportMismatch expected actual) ↔
      new.validate = .ok () ∧ report.Mismatch a.ruleFile new expected actual) ∧
    ((∃ next, a.applyRuleFile new report = .ok next) ↔
      new.validate = .ok () ∧ report.baseFingerprint = Fingerprint.ruleFile a.ruleFile ∧
        report.targetFingerprint = Fingerprint.ruleFile new) ∧
    (∀ e, a.applyRuleFile new report ≠ .error (.lifecycle e)) ∧
    ((∃ next, a.applyRuleFile new (a.changeReport new) = .ok next) ↔ new.validate = .ok ()) := by
  refine ⟨fun e => applyRuleFile_eq_invalid_iff, fun _ _ => applyRuleFile_eq_mismatch_iff,
    exists_applyRuleFile_iff, applyRuleFile_ne_lifecycle, ?_⟩
  have hbase : (a.changeReport new).baseFingerprint = Fingerprint.ruleFile a.ruleFile := rfl
  have htarget : (a.changeReport new).targetFingerprint = Fingerprint.ruleFile new := rfl
  rw [exists_applyRuleFile_iff, hbase, htarget]
  simp

end Outcome

namespace Specimen

/-- A rule file with one requirement twice. -/
def twice : RuleFile := { second with requirements := [kept, kept] }

/-- It is refused as invalid, though the report is one on another file. -/
theorem twice_refused :
    audit.applyRuleFile twice (audit.changeReport second) =
        .error (.invalidRuleFile (.duplicateKey "kept")) ∧
      ∃ next, audit.applyRuleFile second (audit.changeReport second) = .ok next :=
  ⟨((audit.applyRuleFile_outcome twice (audit.changeReport second)).1 _).mpr (by decide),
    (audit.applyRuleFile_outcome second (audit.changeReport second)).2.2.2.2.mpr (by decide)⟩

end Specimen

end Conformance
