import Conformance.Loading.Audit
import Conformance.Problem.Resolution
import Conformance.RuleFile.Update
import Conformance.Sample.Impact
import Conformance.Statistics

/-! A session of work on one audit. Analyses are held until they are confirmed: the impact of a
sample edit, the report on a rule-file update with its rule file, and the collected problems. Held
things stay held after use. A step that is refused changes nothing. -/

namespace Conformance

structure Session where
  audit : Audit
  impact : Option EditImpact := none
  update : Option (ChangeReport × RuleFile) := none
  problems : Option (List Problem) := none

namespace Session

inductive Step
  /-- Stores findings over the stored result, if there is one. -/
  | record (sampleId key : String) (result : RequirementResult) (now : Timestamp)
  /-- Accepts the stored findings under the changed definition. -/
  | acknowledge (sampleId key : String)
  /-- Stores a new audit of a requirement. -/
  | reaudit (sampleId key : String) (result : RequirementResult) (now : Timestamp)
  | analyzeEdit (sampleId : String) (edit : SampleEdit)
  /-- Commits an edit with the held impact. -/
  | commitEdit (sampleId : String) (edit : SampleEdit) (retention : OrphanRetention)
  | analyzeUpdate (document : Json)
  /-- Applies the held report to the held rule file, or to another one. -/
  | applyUpdate (document : Option Json)
  | scan (includeUnfailed : Bool)
  /-- Solves a held problem. -/
  | resolve (index : Nat) (now : Timestamp)
  | summarize
  | display

/-- A row of the display: a requirement key, its computed status and the one that lists show. -/
structure Row where
  key : String
  status : Status
  shown : DisplayStatus

/-- What a step answers with. -/
inductive Reply
  | state (audit : Audit)
  | impact (impact : EditImpact)
  | report (report : ChangeReport)
  | scan (scan : ProblemScan)
  | summary (summary : AuditSummary)
  | display (samples : List (List Row))

/-- Why a step is refused. -/
inductive Refusal
  | ruleFile (cause : RuleFileError)
  | lifecycle (cause : LifecycleError)
  | audit (cause : AuditError)
  | nothingHeld

abbrev Outcome := Except Refusal (Reply × Session)

/-- A cause as a refusal. -/
def refuseWith {ε α : Type} (wrap : ε → Refusal) : Except ε α → Except Refusal α
  | .ok a => .ok a
  | .error e => .error (wrap e)

/-- The session with the audit that a step left. -/
def proceed (s : Session) (audit : Audit) : Outcome := .ok (.state audit, { s with audit })

def findSample (s : Session) (id : String) : Except Refusal Sample :=
  match s.audit.sample? id with
  | some x => .ok x
  | none => .error (.audit (.sampleNotFound id))

/-- The requirement, and then the sample, that a result is stored for. -/
def findResult (s : Session) (sampleId key : String) : Except Refusal (Requirement × Sample) :=
  match s.audit.ruleFile.requirement? key with
  | some r => (s.findSample sampleId).map (r, ·)
  | none => .error (.audit (.requirementNotFound key))

def held {α : Type} : Option α → Except Refusal α
  | some a => .ok a
  | none => .error .nothingHeld

/-- The rows of a sample. -/
def rows (f : RuleFile) (x : Sample) : List Row :=
  (f.relevant x).map fun r =>
    let result := x.result? r.key
    { key := r.key, status := r.status result, shown := r.displayStatus result }

/-- One step of a session. -/
def step (s : Session) : Step → Outcome
  | .record sampleId key result now => do
    let (r, x) ← s.findResult sampleId key
    s.proceed (s.audit.storeResult x key (r.applyUpdate (x.result? key) result now))
  | .acknowledge sampleId key => do
    let (r, x) ← s.findResult sampleId key
    let next ← refuseWith .lifecycle (r.acknowledge ((x.result? key).getD {}))
    s.proceed (s.audit.storeResult x key next)
  | .reaudit sampleId key result now => do
    let (r, x) ← s.findResult sampleId key
    let next ← refuseWith .lifecycle (r.reaudit ((x.result? key).getD {}) result now)
    s.proceed (s.audit.storeResult x key next)
  | .analyzeEdit sampleId edit => do
    let x ← s.findSample sampleId
    let impact := edit.impact s.audit.ruleFile x
    return (.impact impact, { s with impact := some impact })
  | .commitEdit sampleId edit retention => do
    let x ← s.findSample sampleId
    let impact ← held s.impact
    let next ← refuseWith .audit (edit.commit s.audit.ruleFile x impact retention)
    s.proceed (s.audit.setSample x.id next)
  | .analyzeUpdate document => do
    let new ← refuseWith .ruleFile (Loading.ruleFile document)
    let report := s.audit.changeReport new
    return (.report report, { s with update := some (report, new) })
  | .applyUpdate document => do
    let (report, kept) ← held s.update
    let new ← match document with
      | some j => refuseWith .ruleFile (Loading.ruleFile j)
      | none => .ok kept
    let next ← refuseWith .audit (s.audit.applyRuleFile new report)
    s.proceed next
  | .scan includeUnfailed =>
    let scan := s.audit.scan includeUnfailed
    return (.scan scan, { s with problems := some scan.problems })
  | .resolve index now => do
    let problems ← held s.problems
    let p ← held problems[index]?
    let next ← refuseWith .audit (s.audit.resolve p now)
    s.proceed next
  | .summarize => return (.summary s.audit.summary, s)
  | .display => return (.display (s.audit.samples.map (rows s.audit.ruleFile)), s)

/-- The steps one after another, with the answer to each. -/
def run (s : Session) : List Step → List (Except Refusal Reply)
  | [] => []
  | x :: rest =>
    match s.step x with
    | .ok (reply, next) => .ok reply :: next.run rest
    | .error e => .error e :: s.run rest

end Session
end Conformance
