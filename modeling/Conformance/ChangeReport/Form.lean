import Conformance.ChangeReport

/-! The JSON form of change reports, written with every member and read strictly. -/

namespace Conformance

open RecordReader

/-- The reader of the members after the tag. -/
def ChangeAspect.reader? : String → Option (RecordReader ChangeAspect)
  | "content_types" => some (pure .contentTypes)
  | "check_added" => some do return .checkAdded (← required "check_id")
  | "check_removed" => some do return .checkRemoved (← required "check_id")
  | "check_order" => some (pure .checkOrder)
  | "condition" => some do return .condition (← required "check_id")
  | "logic" => some do return .logic (← required "check_id")
  | "pass_criteria" => some do return .criteria (← required "check_id")
  | _ => none

/-- An aspect of one check. -/
def ChangeAspect.tagged (kind checkId : String) : Json :=
  .object [("kind", .text kind), ("check_id", .text checkId)]

instance : JsonForm ChangeAspect where
  toJson
    | .contentTypes => .object [("kind", .text "content_types")]
    | .checkAdded checkId => ChangeAspect.tagged "check_added" checkId
    | .checkRemoved checkId => ChangeAspect.tagged "check_removed" checkId
    | .checkOrder => .object [("kind", .text "check_order")]
    | .condition checkId => ChangeAspect.tagged "condition" checkId
    | .logic checkId => ChangeAspect.tagged "logic" checkId
    | .criteria checkId => ChangeAspect.tagged "pass_criteria" checkId
  ofJson? := runTagged ChangeAspect.reader?

instance : JsonForm AddedRequirement where
  toJson r := .object [("key", toJson r.key), ("id", toJson r.id), ("title", toJson r.title)]
  ofJson? := run do
    let key ← required "key"
    let id ← required "id"
    let title ← required "title"
    return { key, id, title }

instance : JsonForm UpdatedRequirement where
  toJson r := .object [("key", toJson r.key), ("id", toJson r.id), ("title", toJson r.title),
    ("aspects", toJson r.aspects), ("affectedSampleIds", toJson r.affectedSampleIds)]
  ofJson? := run do
    let key ← required "key"
    let id ← required "id"
    let title ← required "title"
    let aspects ← required "aspects"
    let affectedSampleIds ← required "affectedSampleIds"
    return { key, id, title, aspects, affectedSampleIds }

instance : JsonForm RemovedRequirement where
  toJson r := .object [("key", toJson r.key), ("id", toJson r.id), ("title", toJson r.title),
    ("affectedSampleIds", toJson r.affectedSampleIds)]
  ofJson? := run do
    let key ← required "key"
    let id ← required "id"
    let title ← required "title"
    let affectedSampleIds ← required "affectedSampleIds"
    return { key, id, title, affectedSampleIds }

instance : JsonForm ResultRef where
  toJson r := .object [("sampleId", toJson r.sampleId),
    ("requirementKey", toJson r.requirementKey), ("hasRecordedData", toJson r.hasRecordedData)]
  ofJson? := run do
    let sampleId ← required "sampleId"
    let requirementKey ← required "requirementKey"
    let hasRecordedData ← required "hasRecordedData"
    return { sampleId, requirementKey, hasRecordedData }

instance : JsonForm ChangeReport where
  toJson r := .object [("fromVersion", toJson r.fromVersion), ("toVersion", toJson r.toVersion),
    ("baseFingerprint", toJson r.baseFingerprint),
    ("targetFingerprint", toJson r.targetFingerprint), ("addedRequirements", toJson r.added),
    ("updatedRequirements", toJson r.updated), ("removedRequirements", toJson r.removed),
    ("orphanedResults", toJson r.orphaned), ("reappearingResults", toJson r.reappearing)]
  ofJson? := run do
    let fromVersion ← required "fromVersion"
    let toVersion ← required "toVersion"
    let baseFingerprint ← required "baseFingerprint"
    let targetFingerprint ← required "targetFingerprint"
    let added ← required "addedRequirements"
    let updated ← required "updatedRequirements"
    let removed ← required "removedRequirements"
    let orphaned ← optional "orphanedResults" []
    let reappearing ← optional "reappearingResults" []
    return { fromVersion, toVersion, baseFingerprint, targetFingerprint, added, updated, removed,
             orphaned, reappearing }

end Conformance
