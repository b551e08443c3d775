import Conformance.Error
import Conformance.Problem
import Conformance.Recording

/-! Solved problems: the call for help is cleared, and the result is stored through the normal
write path. -/

namespace Conformance

/-- The result without the stuck text of a criterion. Unknown ids change nothing. -/
def RequirementResult.clearStuck (x : RequirementResult) (checkId criterionId : String) :
    RequirementResult :=
  { x with
    checks := x.checks.modify checkId fun c =>
      { c with criteria := c.criteria.modify criterionId fun p => { p with stuckText := "" } } }

/-- The result after the problem of a criterion is solved. -/
def Requirement.markSolved (r : Requirement) (x : RequirementResult)
    (checkId criterionId : String) (now : Timestamp) : RequirementResult :=
  r.applyUpdate (some x) (x.clearStuck checkId criterionId) now

/-- The audit after a collected problem is solved. A result that is not stored counts as an empty
one. -/
def Audit.resolve (a : Audit) (p : Problem) (now : Timestamp) : Except AuditError Audit :=
  match a.ruleFile.requirement? p.requirementKey with
  | none => .error (.requirementNotFound p.requirementKey)
  | some r =>
    match a.sample? p.sampleId with
    | none => .error (.sampleNotFound p.sampleId)
    | some s =>
      let current := (s.result? p.requirementKey).getD {}
      .ok (a.storeResult s p.requirementKey (r.markSolved current p.checkId p.criterionId now))

end Conformance
