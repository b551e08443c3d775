import Conformance.Json.Form
import Conformance.Text

/-! The report on a rule-file update that the auditor confirms before it is applied: what is added,
updated and removed, and which stored results are flagged for review or deleted. The report names
the two rule files that it is about by their fingerprints. -/

namespace Conformance

/-- A part of a requirement's definition that matters to its results. -/
inductive ChangeAspect
  /-- The content types, as a set. -/
  | contentTypes
  | checkAdded (checkId : String)
  | checkRemoved (checkId : String)
  /-- The order of the checks that both definitions have. -/
  | checkOrder
  | condition (checkId : String)
  | logic (checkId : String)
  /-- The number, ids, order or texts of the criteria. -/
  | criteria (checkId : String)
deriving DecidableEq, Repr

structure AddedRequirement where
  key : String
  id : String
  title : String
deriving DecidableEq, Repr

structure UpdatedRequirement where
  key : String
  id : String
  /-- The title in the new definition. -/
  title : String
  aspects : List ChangeAspect
  /-- The samples with a result under the key; each will be flagged for review. -/
  affectedSampleIds : List String
deriving DecidableEq, Repr

structure RemovedRequirement where
  key : String
  /-- The identifier and title in the old definition. -/
  id : String
  title : String
  /-- The samples whose recorded results will be deleted. -/
  affectedSampleIds : List String
deriving DecidableEq, Repr

/-- A stored result whose key the old rule file does not define. -/
structure ResultRef where
  sampleId : String
  requirementKey : String
  hasRecordedData : Bool
deriving DecidableEq, Repr

structure ChangeReport where
  fromVersion : String
  toVersion : String
  baseFingerprint : String
  targetFingerprint : String
  added : List AddedRequirement
  updated : List UpdatedRequirement
  removed : List RemovedRequirement
  /-- The results under keys that neither rule file defines, to be deleted. -/
  orphaned : List ResultRef := []
  /-- The results under keys that only the new rule file defines, to be flagged. -/
  reappearing : List ResultRef := []
deriving DecidableEq, Repr

def ChangeAspect.text : ChangeAspect → String
  | .contentTypes => "content types"
  | .checkAdded checkId => "check " ++ checkId ++ " added"
  | .checkRemoved checkId => "check " ++ checkId ++ " removed"
  | .checkOrder => "check order"
  | .condition checkId => "condition of check " ++ checkId
  | .logic checkId => "logic of check " ++ checkId
  | .criteria checkId => "pass criteria of check " ++ checkId

def ResultRef.text (r : ResultRef) : String := r.sampleId ++ "/" ++ r.requirementKey

def AddedRequirement.line (r : AddedRequirement) : String :=
  "    " ++ r.id ++ " " ++ r.title ++ "\n"

def UpdatedRequirement.line (r : UpdatedRequirement) : String :=
  "    " ++ r.id ++ " " ++ r.title ++ " (" ++ Text.commaList (r.aspects.map ChangeAspect.text) ++ ")"
    ++ (if r.affectedSampleIds.isEmpty then ""
        else "; review needed on " ++ Text.commaList r.affectedSampleIds) ++ "\n"

def RemovedRequirement.line (r : RemovedRequirement) : String :=
  "\n    " ++ r.id ++ " " ++ r.title ++
    (if r.affectedSampleIds.isEmpty then ""
      else "; results deleted on " ++ Text.commaList r.affectedSampleIds)

namespace ChangeReport

/-- Whether the update changes nothing. -/
def isEmpty (r : ChangeReport) : Bool :=
  r.added.isEmpty && r.updated.isEmpty && r.removed.isEmpty && r.orphaned.isEmpty &&
    r.reappearing.isEmpty

/-- Whether the update deletes recorded results. -/
def dataWillBeLost (r : ChangeReport) : Bool :=
  r.removed.any (!·.affectedSampleIds.isEmpty) || r.orphaned.any (·.hasRecordedData)

/-- The number of results that the update flags for review. -/
def flaggedResultCount (r : ChangeReport) : Nat :=
  (r.updated.flatMap (·.affectedSampleIds)).length + r.reappearing.length

/-- A line that names results, if there are any. -/
def resultLine (label : String) (results : List ResultRef) : String :=
  if results.isEmpty then ""
  else "\n  " ++ label ++ ": " ++ Text.commaList (results.map ResultRef.text)

/-- The report as shown to the auditor. -/
def text (r : ChangeReport) : String :=
  "Rule file update " ++ r.fromVersion ++ " -> " ++ r.toVersion ++
  if r.isEmpty then ": no requirement changes"
  else
    "\n  added: " ++ toString r.added.length ++ "\n" ++
    String.join (r.added.map AddedRequirement.line) ++
    "  updated: " ++ toString r.updated.length ++ "\n" ++
    String.join (r.updated.map UpdatedRequirement.line) ++
    "  removed: " ++ toString r.removed.length ++
    String.join (r.removed.map RemovedRequirement.line) ++
    resultLine "orphaned results deleted" r.orphaned ++
    resultLine "results under new keys flagged" r.reappearing

end ChangeReport
end Conformance
