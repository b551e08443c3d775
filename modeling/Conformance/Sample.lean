import Conformance.Result

/-! Samples: the pages and components under audit, with their stored results, and the edits of
their descriptive fields. -/

namespace Conformance

structure Sample where
  id : String
  description : String := ""
  url : String := ""
  category : String := ""
  sampleType : String := ""
  /-- The content types chosen for the sample; none of them means that no choice was made yet. -/
  selectedContentTypes : List String := []
  results : KeyedMap RequirementResult := ∅
deriving DecidableEq

/-- Proposed changes to a sample. A field that is absent stays as it is. -/
structure SampleEdit where
  description : Option String := none
  url : Option String := none
  category : Option String := none
  sampleType : Option String := none
  selectedContentTypes : Option (List String) := none
deriving DecidableEq, Repr

namespace Sample

def result? (s : Sample) (key : String) : Option RequirementResult := s.results.get? key

/-- Whether the result stored under `key` holds findings. -/
def hasRecordedResult (s : Sample) (key : String) : Bool :=
  (s.result? key).any RequirementResult.hasRecordedData

end Sample

/-- The sample after the edit. Results are not touched. -/
def SampleEdit.applyTo (e : SampleEdit) (s : Sample) : Sample :=
  { s with
    description := e.description.getD s.description
    url := e.url.getD s.url
    category := e.category.getD s.category
    sampleType := e.sampleType.getD s.sampleType
    selectedContentTypes := e.selectedContentTypes.getD s.selectedContentTypes }

end Conformance
