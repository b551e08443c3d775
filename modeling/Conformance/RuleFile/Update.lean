import Conformance.ChangeReport.Analysis
import Conformance.Error

/-! Applying a confirmed rule-file update. Everything that can be refused is checked first. Then
each stored result is carried over, flagged for review, or dropped with a tombstone. -/

namespace Conformance

/-- What an update does with a stored result. -/
inductive Disposition
  | carry
  | flag
  /-- Dropped; the title is that of the old definition, or empty. -/
  | drop (title : String)
deriving DecidableEq, Repr

/-- What replacing `old` by `new` does with the results under `key`. A key that the old file does
not define comes back with an unknown meaning, so its results are flagged. -/
def disposition (old new : RuleFile) (key : String) : Disposition :=
  match old.requirement? key, new.requirement? key with
  | some before, some after =>
    if Fingerprint.requirement before = Fingerprint.requirement after then .carry else .flag
  | none, some _ => .flag
  | some before, none => .drop before.title
  | none, none => .drop ""

/-- The result after the change of the rule file, if its life cycle admits that. -/
def RequirementResult.flag (x : RequirementResult) : Except AuditError RequirementResult :=
  match x.lifecycle.transition .ruleFileChanged x.status with
  | .ok next => .ok (x.setLifecycle next)
  | .error e => .error (.lifecycle e)

/-- The results that a sample keeps and the tombstones of the audit, with one more result. -/
def Sample.alignResult (old new : RuleFile) (s : Sample)
    (done : KeyedMap RequirementResult × List Tombstone) (entry : String × RequirementResult) :
    Except AuditError (KeyedMap RequirementResult × List Tombstone) :=
  let (key, x) := entry
  let (results, tombstones) := done
  match disposition old new key with
  | .carry => .ok (results.insert key x, tombstones)
  | .flag => do
    let x ← x.flag
    return (results.insert key x, tombstones)
  | .drop title =>
    .ok (results, tombstones ++
      [{ sampleId := s.id, requirementKey := key, title, ruleFileVersion := new.version }])

/-- Brings one sample after the other in line. The first result that is refused ends it. -/
def alignSamples (old new : RuleFile) (tombstones : List Tombstone) :
    List Sample → Except AuditError (List Sample × List Tombstone)
  | [] => .ok ([], tombstones)
  | s :: rest => do
    let (results, tombstones) ← s.results.entries.foldlM (s.alignResult old new) (∅, tombstones)
    let (rest, tombstones) ← alignSamples old new tombstones rest
    return ({ s with results } :: rest, tombstones)

/-- Whether the report is about replacing `old` by `new`. -/
def ChangeReport.verify (report : ChangeReport) (old new : RuleFile) : Except AuditError Unit :=
  if Fingerprint.ruleFile old ≠ report.baseFingerprint then
    .error (.reportMismatch report.baseFingerprint (Fingerprint.ruleFile old))
  else if Fingerprint.ruleFile new ≠ report.targetFingerprint then
    .error (.reportMismatch report.targetFingerprint (Fingerprint.ruleFile new))
  else .ok ()

/-- Replaces the rule file. The report must be the one for exactly these two rule files. -/
def Audit.applyRuleFile (a : Audit) (new : RuleFile) (report : ChangeReport) :
    Except AuditError Audit := do
  match new.validate with
  | .error e => .error (.invalidRuleFile e)
  | .ok () =>
    report.verify a.ruleFile new
    let (samples, tombstones) ← alignSamples a.ruleFile new a.tombstones a.samples
    return { ruleFile := new, samples, tombstones }

end Conformance
