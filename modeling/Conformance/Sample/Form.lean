import Conformance.Result.Form
import Conformance.Sample

/-! The JSON form of samples and their edits, written with every member and read strictly. -/

namespace Conformance

open RecordReader

instance : JsonForm Sample where
  toJson s := .object [("id", toJson s.id), ("description", toJson s.description),
    ("url", toJson s.url), ("sampleCategory", toJson s.category),
    ("sampleType", toJson s.sampleType),
    ("selectedContentTypes", toJson s.selectedContentTypes),
    ("requirementResults", toJson s.results)]
  ofJson? := run do
    let id ← required "id"
    let description ← optional "description" ""
    let url ← optional "url" ""
    let category ← optional "sampleCategory" ""
    let sampleType ← optional "sampleType" ""
    let selectedContentTypes ← optional "selectedContentTypes" []
    let results ← optional "requirementResults" ∅
    return { id, description, url, category, sampleType, selectedContentTypes, results }

instance : JsonForm SampleEdit where
  toJson e := .object [("description", toJson e.description), ("url", toJson e.url),
    ("sampleCategory", toJson e.category), ("sampleType", toJson e.sampleType),
    ("selectedContentTypes", toJson e.selectedContentTypes)]
  ofJson? := run do
    let description ← optional "description" none
    let url ← optional "url" none
    let category ← optional "sampleCategory" none
    let sampleType ← optional "sampleType" none
    let selectedContentTypes ← optional "selectedContentTypes" none
    return { description, url, category, sampleType, selectedContentTypes }

end Conformance
