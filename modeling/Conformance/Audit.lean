import Conformance.RuleFile
import Conformance.Sample

/-! An audit: the active rule file, the samples with their results, and the history of results that
rule-file updates dropped. -/

namespace Conformance

/-- The trace of a dropped result. It carries nothing of what was recorded. -/
structure Tombstone where
  sampleId : String
  requirementKey : String
  title : String
  /-- The version of the rule file that the result was dropped for. -/
  ruleFileVersion : String
deriving DecidableEq, Repr

structure Audit where
  ruleFile : RuleFile
  samples : List Sample := []
  /-- Grows at its end only. -/
  tombstones : List Tombstone := []

/-- The samples with the first one of this id replaced. -/
def replaceSample (id : String) (new : Sample) : List Sample → List Sample
  | [] => []
  | s :: rest => if s.id = id then new :: rest else s :: replaceSample id new rest

namespace Audit

/-- The first sample with this id. -/
def sample? (a : Audit) (id : String) : Option Sample := a.samples.find? fun s => s.id == id

/-- The audit with the first sample of this id replaced. -/
def setSample (a : Audit) (id : String) (new : Sample) : Audit :=
  { a with samples := replaceSample id new a.samples }

/-- The audit with a result stored under a key of the first sample of this id, which is `s`. -/
def storeResult (a : Audit) (s : Sample) (key : String) (x : RequirementResult) : Audit :=
  a.setSample s.id { s with results := s.results.insert key x }

/-- The stored results without a requirement in the active rule file, by sample id and key. -/
def orphanedResultKeys (a : Audit) : List (String × String) :=
  a.samples.flatMap fun s =>
    (s.results.keys.filter fun key => !a.ruleFile.contains key).map (s.id, ·)

end Audit
end Conformance
