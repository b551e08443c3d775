import Conformance.Audit.Form
import Conformance.Relevance
import Conformance.Warning

/-! The criteria on which auditors are stuck and ask for help, collected over the whole audit: every
sample, its relevant requirements, and the checks and criteria that they declare. -/

namespace Conformance

/-- One stuck criterion. -/
structure Problem where
  sampleId : String
  sampleDescription : String
  requirementKey : String
  /-- The identifier of the requirement that people use. -/
  requirementId : String
  requirementTitle : String
  checkId : String
  criterionId : String
  status : CriterionStatus
  observation : String
  stuckText : String
deriving DecidableEq, Repr

/-- Problems, and the warnings found on the way. -/
structure ProblemScan where
  problems : List Problem := []
  warnings : List Warning := []
deriving DecidableEq, Repr

namespace ProblemScan

def append (a b : ProblemScan) : ProblemScan :=
  { problems := a.problems ++ b.problems, warnings := a.warnings ++ b.warnings }

/-- The scans one after another. -/
def concat (scans : List ProblemScan) : ProblemScan := scans.foldr append {}

end ProblemScan

/-- The problem of a stuck criterion. -/
def Problem.of (s : Sample) (r : Requirement) (c : Check) (p : Criterion)
    (recorded : CriterionResult) : Problem where
  sampleId := s.id
  sampleDescription := s.description
  requirementKey := r.key
  requirementId := r.displayId
  requirementTitle := r.title
  checkId := c.id
  criterionId := p.id
  status := recorded.status
  observation := recorded.observation
  stuckText := Text.trim recorded.stuckText

/-- The scan of one criterion. One that is stuck without being failed is warned about, and collected
only if `includeUnfailed` says so. -/
def Criterion.scan (includeUnfailed : Bool) (s : Sample) (r : Requirement) (c : Check)
    (recorded : CheckResult) (p : Criterion) : ProblemScan :=
  match recorded.criteria.get? p.id with
  | none => {}
  | some x =>
    if !x.isStuck then {}
    else if x.status = .failed then { problems := [.of s r c p x] }
    else
      { problems := if includeUnfailed then [.of s r c p x] else []
        warnings := [.stuckWithoutFailure s.id r.key c.id p.id x.status] }

def Check.scan (includeUnfailed : Bool) (s : Sample) (r : Requirement)
    (recorded : RequirementResult) (c : Check) : ProblemScan :=
  match recorded.checks.get? c.id with
  | none => {}
  | some x => .concat (c.criteria.map (Criterion.scan includeUnfailed s r c x))

def Requirement.scan (includeUnfailed : Bool) (s : Sample) (r : Requirement) : ProblemScan :=
  match s.result? r.key with
  | none => {}
  | some x => .concat (r.checks.map (Check.scan includeUnfailed s r x))

def Sample.scan (includeUnfailed : Bool) (f : RuleFile) (s : Sample) : ProblemScan :=
  .concat ((f.relevant s).map (Requirement.scan includeUnfailed s))

namespace Audit

/-- The warnings about results without a requirement. -/
def orphanWarnings (a : Audit) : List Warning :=
  a.orphanedResultKeys.map fun (sampleId, key) => .orphanedResult sampleId key

/-- The problems and warnings of the audit, in the order of samples and then of the rule file, with
the orphaned results last. -/
def scan (includeUnfailed : Bool) (a : Audit) : ProblemScan :=
  (ProblemScan.concat (a.samples.map (Sample.scan includeUnfailed a.ruleFile))).append
    { warnings := a.orphanWarnings }

/-- The problems of the audit under the default configuration, which collects every stuck
criterion. -/
def problems (a : Audit) : List Problem := (a.scan true).problems

end Audit

open RecordReader

instance : JsonForm Problem where
  toJson p := .object [("sampleId", toJson p.sampleId),
    ("sampleDescription", toJson p.sampleDescription),
    ("requirementKey", toJson p.requirementKey), ("requirementId", toJson p.requirementId),
    ("requirementTitle", toJson p.requirementTitle), ("checkId", toJson p.checkId),
    ("passCriterionId", toJson p.criterionId), ("status", toJson p.status),
    ("observationText", toJson p.observation), ("stuckText", toJson p.stuckText)]
  ofJson? := run do
    let sampleId ← required "sampleId"
    let sampleDescription ← required "sampleDescription"
    let requirementKey ← required "requirementKey"
    let requirementId ← required "requirementId"
    let requirementTitle ← required "requirementTitle"
    let checkId ← required "checkId"
    let criterionId ← required "passCriterionId"
    let status ← required "status"
    let observation ← required "observationText"
    let stuckText ← required "stuckText"
    return { sampleId, sampleDescription, requirementKey, requirementId, requirementTitle,
             checkId, criterionId, status, observation, stuckText }

instance : JsonForm ProblemScan where
  toJson s := .object [("items", toJson s.problems), ("warnings", toJson s.warnings)]
  ofJson? := run do
    let problems ← required "items"
    let warnings ← required "warnings"
    return { problems, warnings }

end Conformance
