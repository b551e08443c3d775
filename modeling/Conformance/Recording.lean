import Conformance.Aggregation

/-! Writing results back. Every write recomputes the status, keeps the review flag by the rules of
the life cycle, and moves the time of the last status change only when the status changes. -/

namespace Conformance.Requirement

/-- The result with the time of its last status change: `now` if its status is not the previous one,
else the previous time. A missing previous result counts as not audited; with it the time that the
result brought along stays. -/
def stamped (next : RequirementResult) (previous : Option RequirementResult) (now : Timestamp) :
    RequirementResult :=
  if next.status ≠ (previous.map (·.status)).getD .notAudited then
    { next with lastStatusUpdate := some now }
  else
    match previous with
    | some p => { next with lastStatusUpdate := p.lastStatusUpdate }
    | none => next

/-- Stamping changes the time of the last status change and nothing else. -/
theorem stamped_eq (next : RequirementResult) (previous : Option RequirementResult)
    (now : Timestamp) : stamped next previous now =
      { next with
        lastStatusUpdate :=
          if next.status ≠ (previous.map (·.status)).getD .notAudited then some now
          else previous.elim next.lastStatusUpdate (·.lastStatusUpdate) } := by
  unfold stamped
  split
  · rfl
  · cases previous <;> rfl

/-- The result with its status computed from the definition. -/
def recomputed (r : Requirement) (x : RequirementResult) : RequirementResult :=
  { x with status := r.status (some x) }

/-- Stores `updated` in place of `previous`. A pending review stays pending, whatever flag the
update carries. -/
def applyUpdate (r : Requirement) (previous : Option RequirementResult)
    (updated : RequirementResult) (now : Timestamp) : RequirementResult :=
  let next := r.recomputed updated
  let state := ((previous.map RequirementResult.lifecycle).getD .fresh).onRecorded next.status
  stamped (next.setLifecycle state) previous now

/-- Accepts the findings under the changed definition. Refused unless a review is pending. -/
def acknowledge (r : Requirement) (x : RequirementResult) :
    Except LifecycleError RequirementResult :=
  let next := r.recomputed x
  (x.lifecycle.transition .acknowledged next.status).map next.setLifecycle

/-- Records a new audit of the requirement, which settles a pending review. -/
def reaudit (r : Requirement) (previous updated : RequirementResult) (now : Timestamp) :
    Except LifecycleError RequirementResult :=
  let next := r.recomputed updated
  (previous.lifecycle.transition .reaudited next.status).map fun state =>
    stamped (next.setLifecycle state) (some previous) now

end Conformance.Requirement
