import Conformance.Result

/-! The JSON form of results, written with every member and read strictly. Every member may be
missing. -/

namespace Conformance

open RecordReader

instance : JsonForm CriterionResult where
  toJson r := .object [("status", toJson r.status), ("observationDetail", toJson r.observation),
    ("stuckProblemDescription", toJson r.stuckText)]
  ofJson? := run do
    let status ← optional "status" .notAudited
    let observation ← optional "observationDetail" ""
    let stuckText ← optional "stuckProblemDescription" ""
    return { status, observation, stuckText }

instance : JsonForm CheckResult where
  toJson r := .object [("overallStatus", toJson r.mark), ("passCriteria", toJson r.criteria)]
  ofJson? := run do
    let mark ← optional "overallStatus" .notAudited
    let criteria ← optional "passCriteria" ∅
    return { mark, criteria }

instance : JsonForm RequirementResult where
  toJson r := .object [("status", toJson r.status), ("needsReview", toJson r.needsReview),
    ("actualObservation", toJson r.observation), ("commentToAuditor", toJson r.commentToAuditor),
    ("commentToActor", toJson r.commentToActor), ("lastStatusUpdate", toJson r.lastStatusUpdate),
    ("checkResults", toJson r.checks)]
  ofJson? := run do
    let status ← optional "status" .notAudited
    let needsReview ← optional "needsReview" false
    let observation ← optional "actualObservation" ""
    let commentToAuditor ← optional "commentToAuditor" ""
    let commentToActor ← optional "commentToActor" ""
    let lastStatusUpdate ← optional "lastStatusUpdate" none
    let checks ← optional "checkResults" ∅
    return { status, needsReview, observation, commentToAuditor, commentToActor, lastStatusUpdate,
             checks }

end Conformance
