import Conformance.RuleFile
import Conformance.Sample

/-! Which requirements apply to a sample. A sample without a selection gets every requirement, and a
requirement without content types applies to every sample. -/

namespace Conformance

/-- Whether the requirement applies to a sample with these content types. -/
def Requirement.isRelevant (r : Requirement) (selected : List String) : Bool :=
  selected.isEmpty || r.isUniversal || r.contentTypes.any selected.contains

/-- The requirements that apply to the sample, in the order of declaration. -/
def RuleFile.relevant (f : RuleFile) (s : Sample) : List Requirement :=
  f.requirements.filter fun r => r.isRelevant s.selectedContentTypes

/-- Their keys. -/
def RuleFile.relevantKeys (f : RuleFile) (s : Sample) : List String :=
  (f.relevant s).map (·.key)

end Conformance
