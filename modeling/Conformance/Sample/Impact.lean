import Conformance.Error
import Conformance.Relevance
import Conformance.Sample.Form

/-! What an edit of a sample does to its relevant requirements. An edit is analyzed, its impact is
confirmed by the auditor, and then it is committed with that impact; an impact that is no longer
what the analysis gives is refused. -/

namespace Conformance

/-- What an edit does to the relevant requirements of a sample. -/
structure EditImpact where
  sampleId : String
  /-- The keys that become relevant, in the order after the edit. -/
  added : List String
  /-- The keys that cease to be relevant, in the order before the edit. -/
  removed : List String
  dataWillBeLost : Bool
  /-- The removed keys under which findings are recorded. -/
  lostKeys : List String
deriving DecidableEq, Repr

/-- What must happen before an edit is saved. -/
inductive EditDecision
  | saveImmediately
  | confirmationRequired (dataWillBeLost : Bool)
deriving DecidableEq, Repr

/-- What becomes of the results of requirements that cease to be relevant. -/
inductive OrphanRetention
  | discard
  | retain
deriving DecidableEq, Repr, Inhabited

instance : Named OrphanRetention where
  name
    | .discard => "discard"
    | .retain => "retain"
  all := [.discard, .retain]

/-- The policy that a text names, in any case and with white space around it. -/
def OrphanRetention.ofText? (text : String) : Option OrphanRetention :=
  Named.ofName? (Text.lower (Text.trim text))

namespace EditImpact

def changesRelevance (i : EditImpact) : Bool := !i.added.isEmpty || !i.removed.isEmpty

def decision (i : EditImpact) : EditDecision :=
  if i.changesRelevance then .confirmationRequired i.dataWillBeLost else .saveImmediately

/-- The impact as shown to the auditor. -/
def text (i : EditImpact) : String :=
  if !i.changesRelevance then
    "Sample " ++ i.sampleId ++ ": no change to relevant requirements"
  else
    "Sample " ++ i.sampleId ++ ":\n" ++
    (if i.added.isEmpty then ""
      else "  added requirements: " ++ Text.commaList i.added ++ "\n") ++
    (if i.removed.isEmpty then ""
      else "  removed requirements: " ++ Text.commaList i.removed ++ "\n") ++
    (if i.dataWillBeLost then
        "  recorded results will be lost for: " ++ Text.commaList i.lostKeys
      else "")

end EditImpact

/-- The first list without the members of the second, in its order. -/
def orderedDifference (keys other : List String) : List String :=
  keys.filter fun key => !other.contains key

/-- The impact of the edit on the sample. -/
def SampleEdit.impact (f : RuleFile) (s : Sample) (e : SampleEdit) : EditImpact :=
  let before := f.relevantKeys s
  let after := f.relevantKeys (e.applyTo s)
  let removed := orderedDifference before after
  let lostKeys := removed.filter s.hasRecordedResult
  { sampleId := s.id
    added := orderedDifference after before
    removed
    dataWillBeLost := !lostKeys.isEmpty
    lostKeys }

/-- The sample after a confirmed edit. The impact must be what the analysis gives now; the results
of removed requirements are dropped or kept by the policy. -/
def SampleEdit.commit (f : RuleFile) (s : Sample) (e : SampleEdit) (impact : EditImpact)
    (retention : OrphanRetention) : Except AuditError Sample :=
  if e.impact f s = impact then
    let edited := e.applyTo s
    match retention with
    | .retain => .ok edited
    | .discard => .ok { edited with results := impact.removed.foldl KeyedMap.erase edited.results }
  else .error (.staleImpact s.id)

open RecordReader in
instance : JsonForm EditImpact where
  toJson i := .object [("sampleId", toJson i.sampleId), ("addedReqs", toJson i.added),
    ("removedReqs", toJson i.removed), ("dataWillBeLost", toJson i.dataWillBeLost),
    ("lostResultKeys", toJson i.lostKeys)]
  ofJson? := run do
    let sampleId ← required "sampleId"
    let added ← required "addedReqs"
    let removed ← required "removedReqs"
    let dataWillBeLost ← required "dataWillBeLost"
    let lostKeys ← required "lostResultKeys"
    return { sampleId, added, removed, dataWillBeLost, lostKeys }

end Conformance
