import Conformance.Json.Form
import Conformance.Text

/-! The statuses of an audit, from the single criterion up to the whole audit, and how a check
combines its criteria. -/

namespace Conformance

/-- The computed status of a check, a requirement, a sample or the audit. -/
inductive Status
  | notAudited
  | partiallyAudited
  | passed
  | failed
deriving DecidableEq, Repr, Inhabited

/-- What the auditor recorded for the condition of a check. `passed` says that the condition holds,
so that the criteria decide; `notApplicable` that it does not hold, which passes the check. -/
inductive CheckMark
  | notAudited
  | passed
  | notApplicable
deriving DecidableEq, Repr, Inhabited

/-- The recorded status of one pass criterion. -/
inductive CriterionStatus
  | notAudited
  | passed
  | failed
deriving DecidableEq, Repr, Inhabited

/-- Whether all criteria of a check must pass or any one of them. -/
inductive Logic
  | all
  | any
deriving DecidableEq, Repr, Inhabited

/-- What lists show: the computed status, or `updated` while a review is pending. -/
inductive DisplayStatus
  | notAudited
  | partiallyAudited
  | passed
  | failed
  | updated
deriving DecidableEq, Repr

instance : Named Status where
  name
    | .notAudited => "not_audited"
    | .partiallyAudited => "partially_audited"
    | .passed => "passed"
    | .failed => "failed"
  all := [.notAudited, .partiallyAudited, .passed, .failed]

instance : Named CheckMark where
  name
    | .notAudited => "not_audited"
    | .passed => "passed"
    | .notApplicable => "not_applicable"
  all := [.notAudited, .passed, .notApplicable]

instance : Named CriterionStatus where
  name
    | .notAudited => "not_audited"
    | .passed => "passed"
    | .failed => "failed"
  all := [.notAudited, .passed, .failed]

instance : Named Logic where
  name
    | .all => "AND"
    | .any => "OR"
  all := [.all, .any]

instance : Named DisplayStatus where
  name
    | .notAudited => "not_audited"
    | .partiallyAudited => "partially_audited"
    | .passed => "passed"
    | .failed => "failed"
    | .updated => "updated"
  all := [.notAudited, .partiallyAudited, .passed, .failed, .updated]

/-- The logic that a text names, in any case and with white space around it. -/
def Logic.ofText? (text : String) : Option Logic :=
  Named.ofName? (Text.upper (Text.trim text))

/-- The computed status as lists show it. -/
def Status.display : Status → DisplayStatus
  | .notAudited => .notAudited
  | .partiallyAudited => .partiallyAudited
  | .passed => .passed
  | .failed => .failed

end Conformance
