import Conformance.RuleFile
import Conformance.Status

/-! Warnings about data that the engine works with although it is probably not what was meant. -/

namespace Conformance

inductive Warning
  /-- A criterion with a call for help that is not failed. -/
  | stuckWithoutFailure (sampleId requirementKey checkId criterionId : String)
      (status : CriterionStatus)
  /-- A requirement that can never be audited. -/
  | requirementWithoutChecks (requirementKey : String)
  /-- A check that passes as soon as its condition holds. -/
  | checkWithoutCriteria (requirementKey checkId : String)
  /-- A stored result whose requirement the rule file does not define. -/
  | orphanedResult (sampleId requirementKey : String)
deriving DecidableEq, Repr

namespace Warning

def describe : Warning → String
  | .stuckWithoutFailure sampleId key checkId criterionId status =>
    "sample " ++ sampleId ++ ": " ++ key ++ "/" ++ checkId ++ "/" ++ criterionId ++
      " is stuck but " ++ Named.name status
  | .requirementWithoutChecks key => "requirement " ++ key ++ " has no checks"
  | .checkWithoutCriteria key checkId =>
    "check " ++ key ++ "/" ++ checkId ++ " has no pass criteria"
  | .orphanedResult sampleId key =>
    "sample " ++ sampleId ++ " has a result for unknown requirement " ++ key

open RecordReader

/-- A status inside a tagged record; there an empty object serves as well as `null`. -/
def readStatus? : Json → Option CriterionStatus
  | .object [(s, .object [])] => Named.ofName? s
  | j => ofJson? j

/-- The reader of the members after the tag. -/
def reader? : String → Option (RecordReader Warning)
  | "stuck_without_failure" => some do
    let sampleId ← required "sample_id"
    let key ← required "requirement_key"
    let checkId ← required "check_id"
    let criterionId ← required "pass_criterion_id"
    let status ← required "status"
    let some status := readStatus? status | failure
    return .stuckWithoutFailure sampleId key checkId criterionId status
  | "requirement_without_checks" => some do
    let key ← required "requirement_key"
    return .requirementWithoutChecks key
  | "check_without_pass_criteria" => some do
    let key ← required "requirement_key"
    let checkId ← required "check_id"
    return .checkWithoutCriteria key checkId
  | "orphaned_result" => some do
    let sampleId ← required "sample_id"
    let key ← required "requirement_key"
    return .orphanedResult sampleId key
  | _ => none

instance : JsonForm Warning where
  toJson
    | .stuckWithoutFailure sampleId key checkId criterionId status =>
      .object [("kind", .text "stuck_without_failure"), ("sample_id", toJson sampleId),
        ("requirement_key", toJson key), ("check_id", toJson checkId),
        ("pass_criterion_id", toJson criterionId), ("status", toJson status)]
    | .requirementWithoutChecks key =>
      .object [("kind", .text "requirement_without_checks"), ("requirement_key", toJson key)]
    | .checkWithoutCriteria key checkId =>
      .object [("kind", .text "check_without_pass_criteria"), ("requirement_key", toJson key),
        ("check_id", toJson checkId)]
    | .orphanedResult sampleId key =>
      .object [("kind", .text "orphaned_result"), ("sample_id", toJson sampleId),
        ("requirement_key", toJson key)]
  ofJson? := runTagged reader?

end Warning

/-- The warnings about the definition of a requirement. -/
def Requirement.warnings (r : Requirement) : List Warning :=
  if r.checks.isEmpty then [.requirementWithoutChecks r.key]
  else (r.checks.filter (·.criteria.isEmpty)).map fun c => .checkWithoutCriteria r.key c.id

/-- The warnings about all definitions of a rule file. -/
def RuleFile.warnings (f : RuleFile) : List Warning := f.requirements.flatMap Requirement.warnings

end Conformance
