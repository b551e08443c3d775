import Conformance.Loading

/-! Reading stored samples leniently. This never fails: a value that is no object is an empty
sample. -/

namespace Conformance.Loading

def status (o : Members) : Status :=
  match wordMember o "status" with
  | "passed" => .passed
  | "failed" => .failed
  | "partially_audited" => .partiallyAudited
  | "partiallyAudited" => .partiallyAudited
  | _ => .notAudited

/-- The mark of a check, also under the names of the buttons that set it. -/
def checkMark (o : Members) : CheckMark :=
  match wordMember o "overallStatus" with
  | "passed" => .passed
  | "complies" => .passed
  | "not_applicable" => .notApplicable
  | "notApplicable" => .notApplicable
  | "does_not_comply" => .notApplicable
  | _ => .notAudited

def criterionStatus (o : Members) : CriterionStatus :=
  match wordMember o "status" with
  | "passed" => .passed
  | "failed" => .failed
  | _ => .notAudited

def criterionResult (o : Members) : CriterionResult where
  status := criterionStatus o
  observation := textMember o "observationDetail"
  stuckText := textMember o "stuckProblemDescription"

/-- The object members of a collection, read one by one, by their names. -/
def readMap {α : Type} (read : Members → α) (collection : Option Json) : KeyedMap α :=
  .ofList ((objectEntries collection).map fun (name, o) => (name, read o))

def checkResult (o : Members) : CheckResult where
  mark := checkMark o
  criteria := readMap criterionResult (o.lookup "passCriteria")

def requirementResult (o : Members) : RequirementResult where
  status := status o
  needsReview := flagMember o "needsReview"
  observation := textMember o "actualObservation"
  commentToAuditor := textMember o "commentToAuditor"
  commentToActor := textMember o "commentToActor"
  lastStatusUpdate := Timestamp.ofStrict? (wordMember o "lastStatusUpdate")
  checks := readMap checkResult (o.lookup "checkResults")

def sample : Json → Sample
  | .object o =>
    { id := textMember o "id"
      description := textMember o "description"
      url := textMember o "url"
      category := textMember o "sampleCategory"
      sampleType := textMember o "sampleType"
      selectedContentTypes := idList (o.lookup "selectedContentTypes")
      results := readMap requirementResult (o.lookup "requirementResults") }
  | _ => { id := "" }

end Conformance.Loading
