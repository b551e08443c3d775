import Conformance.Audit
import Conformance.RuleFile.Form
import Conformance.Sample.Form

/-! The JSON form of audits, written with every member and read strictly. -/

namespace Conformance

open RecordReader

instance : JsonForm Tombstone where
  toJson t := .object [("sampleId", toJson t.sampleId),
    ("requirementKey", toJson t.requirementKey), ("title", toJson t.title),
    ("ruleFileVersion", toJson t.ruleFileVersion)]
  ofJson? := run do
    let sampleId ← required "sampleId"
    let requirementKey ← required "requirementKey"
    let title ← required "title"
    let ruleFileVersion ← required "ruleFileVersion"
    return { sampleId, requirementKey, title, ruleFileVersion }

instance : JsonForm Audit where
  toJson a := .object [("ruleFileContent", toJson a.ruleFile), ("samples", toJson a.samples),
    ("tombstones", toJson a.tombstones)]
  ofJson? := run do
    let ruleFile ← required "ruleFileContent"
    let samples ← optional "samples" []
    let tombstones ← optional "tombstones" []
    return { ruleFile, samples, tombstones }

end Conformance
