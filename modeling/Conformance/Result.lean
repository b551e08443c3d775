import Conformance.Lifecycle
import Conformance.Timestamp.Text

/-! What auditors record: the status and remarks for each criterion, the mark of each check, and the
result of a requirement on a sample. The status of a result is computed from its checks and kept
for statistics. -/

namespace Conformance

/-- What is recorded for one pass criterion. -/
structure CriterionResult where
  status : CriterionStatus := .notAudited
  observation : String := ""
  /-- Not blank when the auditor is stuck and asks for help. -/
  stuckText : String := ""
deriving DecidableEq, Repr

/-- What is recorded for one check. -/
structure CheckResult where
  mark : CheckMark := .notAudited
  criteria : KeyedMap CriterionResult := ∅
deriving DecidableEq

/-- The stored result of one requirement on one sample. -/
structure RequirementResult where
  status : Status := .notAudited
  needsReview : Bool := false
  observation : String := ""
  commentToAuditor : String := ""
  commentToActor : String := ""
  lastStatusUpdate : Option Timestamp := none
  checks : KeyedMap CheckResult := ∅
deriving DecidableEq

namespace CriterionResult

def isStuck (r : CriterionResult) : Bool := !Text.isBlank r.stuckText

def hasRecordedData (r : CriterionResult) : Bool :=
  r.status != .notAudited || !Text.isBlank r.observation || r.isStuck

end CriterionResult

def CheckResult.hasRecordedData (r : CheckResult) : Bool :=
  r.mark != .notAudited || r.criteria.any CriterionResult.hasRecordedData

namespace RequirementResult

/-- Whether anything at all was recorded. A result that was only opened holds nothing to protect. -/
def hasRecordedData (r : RequirementResult) : Bool :=
  r.status != .notAudited || r.lastStatusUpdate.isSome || !Text.isBlank r.observation ||
    !Text.isBlank r.commentToAuditor || !Text.isBlank r.commentToActor ||
    r.checks.any CheckResult.hasRecordedData

/-- The state of the record, which is kept as its status and review flag. -/
def lifecycle (r : RequirementResult) : Lifecycle := .ofParts r.status r.needsReview

/-- The record with the review flag of a state. -/
def setLifecycle (r : RequirementResult) (state : Lifecycle) : RequirementResult :=
  { r with needsReview := state.needsReview }

/-- What is recorded for a criterion of a check. -/
def criterion? (r : RequirementResult) (checkId criterionId : String) : Option CriterionResult :=
  (r.checks.get? checkId).bind fun c => c.criteria.get? criterionId

end RequirementResult
end Conformance
