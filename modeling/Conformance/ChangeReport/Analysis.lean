import Conformance.Audit
import Conformance.ChangeReport
import Conformance.Fingerprint

/-! The comparison of the active rule file of an audit with another one, by requirement key and
content fingerprint. -/

namespace Conformance

/-- Whether two criteria differ in what matters to results. -/
def Criterion.differs (a b : Criterion) : Bool :=
  a.id != b.id || Text.trim a.requirement != Text.trim b.requirement ||
    Text.trim a.failureTemplate != Text.trim b.failureTemplate

def Check.criteriaDiffer (old new : Check) : Bool :=
  old.criteria.length != new.criteria.length ||
    (old.criteria.zip new.criteria).any fun (a, b) => a.differs b

/-- What changed in a check that both definitions have. -/
def Check.changeAspects (old new : Check) : List ChangeAspect :=
  (if Text.trim old.condition != Text.trim new.condition then [.condition new.id] else []) ++
  (if old.logic != new.logic then [.logic new.id] else []) ++
  (if old.criteriaDiffer new then [.criteria new.id] else [])

/-- What changed between two definitions of one requirement; empty if the change is cosmetic. -/
def Requirement.changeAspects (old new : Requirement) : List ChangeAspect :=
  let oldIds := old.checks.map (·.id)
  let newIds := new.checks.map (·.id)
  (if Fingerprint.scope old != Fingerprint.scope new then [.contentTypes] else []) ++
  (oldIds.filter (!newIds.contains ·)).map .checkRemoved ++
  (newIds.filter (!oldIds.contains ·)).map .checkAdded ++
  (if oldIds.filter newIds.contains != newIds.filter oldIds.contains then [.checkOrder] else []) ++
  new.checks.flatMap fun c =>
    match old.check? c.id with
    | none => []
    | some before => before.changeAspects c

namespace Audit

def samplesWithResult (a : Audit) (key : String) : List String :=
  (a.samples.filter fun s => (s.result? key).isSome).map (·.id)

def samplesWithRecordedResult (a : Audit) (key : String) : List String :=
  (a.samples.filter (·.hasRecordedResult key)).map (·.id)

/-- The stored results under keys that the active rule file does not define. -/
def unmatchedResults (a : Audit) : List ResultRef :=
  a.samples.flatMap fun s =>
    (s.results.entries.filter fun e => !a.ruleFile.contains e.1).map fun e =>
      { sampleId := s.id, requirementKey := e.1, hasRecordedData := e.2.hasRecordedData }

/-- The entry for a requirement of the active rule file, if the new one changes it. -/
def updatedEntry (a : Audit) (new : RuleFile) (old : Requirement) : Option UpdatedRequirement := do
  let r ← new.requirement? old.key
  if Fingerprint.requirement old = Fingerprint.requirement r then none
  else
    some
      { key := r.key
        id := r.displayId
        title := r.title
        aspects := old.changeAspects r
        affectedSampleIds := a.samplesWithResult old.key }

/-- The entry for a requirement of the active rule file, if the new one lacks it. -/
def removedEntry (a : Audit) (new : RuleFile) (old : Requirement) : Option RemovedRequirement :=
  if new.contains old.key then none
  else
    some
      { key := old.key
        id := old.displayId
        title := old.title
        affectedSampleIds := a.samplesWithRecordedResult old.key }

/-- The report on replacing the active rule file. Added requirements stand in the order of the new
file, updated and removed ones in that of the old. -/
def changeReport (a : Audit) (new : RuleFile) : ChangeReport :=
  let old := a.ruleFile
  { fromVersion := old.version
    toVersion := new.version
    baseFingerprint := Fingerprint.ruleFile old
    targetFingerprint := Fingerprint.ruleFile new
    added := (new.requirements.filter fun r => !old.contains r.key).map fun r =>
      { key := r.key, id := r.displayId, title := r.title }
    updated := old.requirements.filterMap (a.updatedEntry new)
    removed := old.requirements.filterMap (a.removedEntry new)
    orphaned := a.unmatchedResults.filter fun x => !new.contains x.requirementKey
    reappearing := a.unmatchedResults.filter fun x => new.contains x.requirementKey }

end Audit
end Conformance
