import Conformance.RuleFile
import Conformance.Sample

/-! The computed status of a check, a requirement, and of anything made of parts with statuses. The
computation depends on the definition and on what is recorded, and a missing record counts as not
audited. -/

namespace Conformance

/-- The status of a check whose condition holds, from its criteria. Without criteria it passes. -/
def Logic.combine (logic : Logic) (statuses : List CriterionStatus) : Status :=
  if statuses.isEmpty then .passed
  else
    match logic with
    | .all =>
      if statuses.all (· == .passed) then .passed
      else if statuses.any (· == .failed) then .failed
      else .partiallyAudited
    | .any =>
      if statuses.any (· == .passed) then .passed
      else if statuses.all (· == .failed) then .failed
      else .partiallyAudited

/-- The status recorded for a criterion; not audited if nothing is. -/
def CheckResult.criterionStatus (r : CheckResult) (id : String) : CriterionStatus :=
  ((r.criteria.get? id).map (·.status)).getD .notAudited

/-- The status of a check. One that is not applicable passes whatever its criteria. -/
def Check.status (c : Check) (result : Option CheckResult) : Status :=
  match result with
  | none => .notAudited
  | some r =>
    match r.mark with
    | .notAudited => .notAudited
    | .notApplicable => .passed
    | .passed => c.logic.combine (c.criteria.map fun p => r.criterionStatus p.id)

/-- The status of a whole, from the number of its parts and how many of them are not audited,
passed and failed. -/
def Status.ofCounts (total notAudited passed failed : Nat) : Status :=
  if total = 0 ∨ notAudited = total then .notAudited
  else if 0 < failed then .failed
  else if passed = total then .passed
  else .partiallyAudited

/-- The status of a whole from the statuses of its parts. -/
def Status.rollUp (statuses : List Status) : Status :=
  .ofCounts statuses.length (statuses.count .notAudited) (statuses.count .passed)
    (statuses.count .failed)

namespace Requirement

/-- The status of a requirement from its checks. Without checks it can never be audited. -/
def status (r : Requirement) (result : Option RequirementResult) : Status :=
  if r.checks.isEmpty then .notAudited
  else .rollUp (r.checks.map fun c => c.status (result.bind fun x => x.checks.get? c.id))

/-- The status that lists show. -/
def displayStatus (r : Requirement) (result : Option RequirementResult) : DisplayStatus :=
  if result.any (·.needsReview) then .updated else (r.status result).display

end Requirement
end Conformance
