import Conformance.Journal
import Conformance.Problem.Resolution
import Conformance.RuleFile.Update
import Conformance.Sample.Impact
import Conformance.Statistics

/-! The events of the operations on an audit. -/

namespace Conformance.Journal

/-- The events of finding the requirements relevant to a sample. -/
def relevant (f : RuleFile) (s : Sample) : List Event :=
  Span.around ⟨"auditor.relevance", [("sample_id", .text s.id)]⟩
    [{ level := .debug
       message := "resolved relevant requirements"
       fields := [("relevant", Json.natural (f.relevant s).length),
         ("total", Json.natural f.requirements.length)] }]

/-- The events of computing the status of a requirement. -/
def status (r : Requirement) (result : Option RequirementResult) : List Event :=
  Span.around ⟨"auditor.status", [("requirement_key", .text r.key)]⟩
    [if r.checks.isEmpty then { level := .trace, message := "requirement has no checks" }
     else
       { level := .trace
         message := "computed requirement status"
         fields := [("status", toJson (r.status result))] }]

/-- The events of deciding what lists show. The status is not computed while a review is pending. -/
def displayStatus (r : Requirement) (result : Option RequirementResult) : List Event :=
  if result.any (·.needsReview) then [] else status r result

/-- The events of analyzing an edit. -/
def impact (f : RuleFile) (s : Sample) (e : SampleEdit) : List Event :=
  let i := e.impact f s
  Span.around ⟨"auditor.impact", [("sample_id", .text s.id)]⟩ <|
    relevant f s ++ relevant f (e.applyTo s) ++
    [{ level := .debug
       message := "analyzed sample edit"
       fields := [("added", Json.natural i.added.length),
         ("removed", Json.natural i.removed.length),
         ("lost", Json.natural i.lostKeys.length)] }]

/-- The events of committing an edit. -/
def commit (f : RuleFile) (s : Sample) (e : SampleEdit) (i : EditImpact)
    (retention : OrphanRetention) : List Event :=
  impact f s e ++
    match e.commit f s i retention with
    | .error _ => []
    | .ok edited =>
      [{ level := .info
         message := "committed sample edit"
         fields := [("sample_id", .text edited.id), ("added", Json.natural i.added.length),
           ("removed", Json.natural i.removed.length),
           ("discarded", Json.natural (if retention = .discard then i.lostKeys.length else 0))] }]

/-- The events of summarizing a sample. -/
def sampleSummary (f : RuleFile) (s : Sample) : List Event :=
  relevant f s ++ (f.relevant s).flatMap fun r => status r (s.result? r.key)

/-- The events of summarizing the audit. -/
def auditSummary (a : Audit) : List Event :=
  let summary := a.summary
  a.samples.flatMap (sampleSummary a.ruleFile) ++
    [{ level := .debug
       message := "summarized audit"
       fields := [("samples", Json.natural summary.samples.length),
         ("requirements", Json.natural summary.totals.total),
         ("needs_review", Json.natural summary.totals.needsReview)] }]

/-- The events of storing an update of a result. -/
def applyUpdate (r : Requirement) (previous : Option RequirementResult)
    (updated : RequirementResult) (now : Timestamp) : List Event :=
  let next := r.applyUpdate previous updated now
  status r (some updated) ++
    [{ level := .debug
       message := "applied result update"
       fields := [("requirement_key", .text r.key), ("status", toJson next.status),
         ("lifecycle", toJson next.lifecycle)] }]

/-- The events of acknowledging a result. -/
def acknowledge (r : Requirement) (x : RequirementResult) : List Event :=
  status r (some x) ++
    match r.acknowledge x with
    | .error _ => []
    | .ok _ =>
      [{ level := .info, message := "review acknowledged",
         fields := [("requirement_key", .text r.key)] }]

/-- The events of a new audit of a requirement. -/
def reaudit (r : Requirement) (previous updated : RequirementResult) (now : Timestamp) :
    List Event :=
  status r (some updated) ++
    match r.reaudit previous updated now with
    | .error _ => []
    | .ok next =>
      [{ level := .info
         message := "requirement re-audited"
         fields := [("requirement_key", .text r.key), ("status", toJson next.status)] }]

/-- The event of a warning. -/
def warning (message : String) (w : Warning) : Event where
  level := .warn
  message := message
  fields := [("warning", .text w.describe)]

/-- The events of inspecting a rule file. -/
def inspect (f : RuleFile) : List Event := f.warnings.map (warning "rule file data quality")

/-- The events of scanning an audit for problems. -/
def scan (includeUnfailed : Bool) (a : Audit) : List Event :=
  let found := a.scan includeUnfailed
  Span.around ⟨"auditor.problems", [("sample_count", Json.natural a.samples.length)]⟩ <|
    (a.samples.flatMap fun s =>
      relevant a.ruleFile s ++
        (s.scan includeUnfailed a.ruleFile).warnings.map
          (warning "stuck criterion is not failed")) ++
    a.orphanWarnings.map (warning "orphaned result") ++
    [{ level := .debug
       message := "collected audit problems"
       fields := [("items", Json.natural found.problems.length),
         ("warnings", Json.natural found.warnings.length)] }]

/-- The events of marking a problem of a result as solved. -/
def markSolved (r : Requirement) (x : RequirementResult) (checkId criterionId : String)
    (now : Timestamp) : List Event :=
  (if (x.criterion? checkId criterionId).isSome then []
    else
      [{ level := .debug
         message := "no recorded criterion to clear"
         fields := [("requirement_key", .text r.key), ("check_id", .text checkId),
           ("pass_criterion_id", .text criterionId)] }]) ++
    applyUpdate r (some x) (x.clearStuck checkId criterionId) now

/-- The events of solving a collected problem. -/
def resolve (a : Audit) (p : Problem) (now : Timestamp) : List Event :=
  match a.ruleFile.requirement? p.requirementKey, a.sample? p.sampleId with
  | some r, some s =>
    markSolved r ((s.result? p.requirementKey).getD {}) p.checkId p.criterionId now ++
      [{ level := .info
         message := "problem marked solved"
         fields := [("sample_id", .text p.sampleId), ("requirement_key", .text p.requirementKey),
           ("check_id", .text p.checkId), ("pass_criterion_id", .text p.criterionId)] }]
  | _, _ => []

/-- The span of a rule-file update. -/
def updateSpan (old new : RuleFile) : Span :=
  ⟨"auditor.reconcile", [("from_version", .text old.version), ("to_version", .text new.version)]⟩

/-- The events of analyzing a rule-file update. -/
def changeReport (a : Audit) (new : RuleFile) : List Event :=
  let report := a.changeReport new
  (updateSpan a.ruleFile new).around
    [{ level := .debug
       message := "analyzed rule file changes"
       fields := [("added", Json.natural report.added.length),
         ("updated", Json.natural report.updated.length),
         ("removed", Json.natural report.removed.length),
         ("orphaned", Json.natural report.orphaned.length)] }]

/-- The number of stored results that an update treats in the way `p` describes. -/
def countResults (a : Audit) (new : RuleFile) (p : Disposition → Bool) : Nat :=
  (a.samples.flatMap fun s =>
    s.results.keys.filter fun key => p (disposition a.ruleFile new key)).length

/-- The events of applying a rule-file update. -/
def applyRuleFile (a : Audit) (new : RuleFile) (report : ChangeReport) : List Event :=
  match a.applyRuleFile new report with
  | .error _ => []
  | .ok _ =>
    let isDrop : Disposition → Bool
      | .drop _ => true
      | _ => false
    (updateSpan a.ruleFile new).around
      [{ level := .info
         message := "applied rule file update"
         fields := [("carried", Json.natural (countResults a new (· == .carry))),
           ("flagged", Json.natural (countResults a new (· == .flag))),
           ("dropped", Json.natural (countResults a new isDrop))] }]

end Conformance.Journal
