import Conformance.Notice
import Conformance.Status

/-! The life of a stored result. A result is fresh, in progress or complete after its computed
status, until a rule file changes under it. From then on it is stale: recording further findings
leaves it stale, and only an acknowledgement or a new audit brings it back. -/

namespace Conformance

inductive Lifecycle
  /-- Nothing recorded yet. -/
  | fresh
  /-- Some checks recorded, not all. -/
  | inProgress
  /-- Every check recorded. -/
  | complete
  /-- The requirement changed; the auditor must look again. -/
  | stale
deriving DecidableEq, Repr, Inhabited

/-- What can happen to a stored result. -/
inductive LifecycleEvent
  | recorded
  | ruleFileChanged
  | acknowledged
  | reaudited
deriving DecidableEq, Repr

instance : Named Lifecycle where
  name
    | .fresh => "fresh"
    | .inProgress => "in_progress"
    | .complete => "complete"
    | .stale => "stale_needs_review"
  all := [.fresh, .inProgress, .complete, .stale]

instance : Named LifecycleEvent where
  name
    | .recorded => "recorded"
    | .ruleFileChanged => "rule_file_changed"
    | .acknowledged => "acknowledged"
    | .reaudited => "reaudited"
  all := [.recorded, .ruleFileChanged, .acknowledged, .reaudited]

/-- An event that the state does not admit. -/
inductive LifecycleError
  | invalidTransition (state : Lifecycle) (event : LifecycleEvent)
deriving DecidableEq, Repr

instance : Notice LifecycleError where
  code _ := "LIFECYCLE_ERROR"
  message
    | .invalidTransition state event =>
      "invalid lifecycle transition: " ++ Named.name event ++ " from " ++ Named.name state

namespace Lifecycle

/-- The state that a computed status implies when no review is pending. -/
def derived : Status → Lifecycle
  | .notAudited => .fresh
  | .partiallyAudited => .inProgress
  | .passed => .complete
  | .failed => .complete

/-- The state of a record with this status and review flag. -/
def ofParts (status : Status) (needsReview : Bool) : Lifecycle :=
  if needsReview then .stale else derived status

def needsReview : Lifecycle → Bool
  | .stale => true
  | _ => false

/-- The state after findings are recorded. A pending review stays pending. -/
def onRecorded (state : Lifecycle) (computed : Status) : Lifecycle :=
  if state.needsReview then state else derived computed

/-- The state after an event, given the status computed after it. -/
def transition (state : Lifecycle) (event : LifecycleEvent) (computed : Status) :
    Except LifecycleError Lifecycle :=
  match event with
  | .ruleFileChanged => .ok .stale
  | .recorded => .ok (state.onRecorded computed)
  | .reaudited => .ok (derived computed)
  | .acknowledged =>
    if state.needsReview then .ok (derived computed)
    else .error (.invalidTransition state event)

end Lifecycle
end Conformance
