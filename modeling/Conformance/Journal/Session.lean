import Conformance.Journal.Engine
import Conformance.Journal.Loading
import Conformance.Session

/-! The events of a session, step by step. -/

namespace Conformance.Journal

open Session

/-- The events of an operation on something that may not be there. -/
def whenOk {ε α : Type} (e : Except ε α) (events : α → List Event) : List Event :=
  match e with
  | .ok a => events a
  | .error _ => []

/-- The events of the rows of a sample. -/
def rows (f : RuleFile) (s : Sample) : List Event :=
  relevant f s ++ (f.relevant s).flatMap fun r =>
    let result := s.result? r.key
    status r result ++ displayStatus r result

/-- The events of one step. -/
def step (s : Session) : Step → List Event
  | .record sampleId key result now =>
    whenOk (s.findResult sampleId key) fun (r, x) => applyUpdate r (x.result? key) result now
  | .acknowledge sampleId key =>
    whenOk (s.findResult sampleId key) fun (r, x) => acknowledge r ((x.result? key).getD {})
  | .reaudit sampleId key result now =>
    whenOk (s.findResult sampleId key) fun (r, x) =>
      reaudit r ((x.result? key).getD {}) result now
  | .analyzeEdit sampleId edit =>
    whenOk (s.findSample sampleId) fun x => impact s.audit.ruleFile x edit
  | .commitEdit sampleId edit retention =>
    whenOk (s.findSample sampleId) fun x =>
      whenOk (held s.impact) fun i => commit s.audit.ruleFile x edit i retention
  | .analyzeUpdate document =>
    decodeRuleFile document ++
      whenOk (Loading.ruleFile document) fun new => changeReport s.audit new
  | .applyUpdate document =>
    whenOk (held s.update) fun (report, kept) =>
      match document with
      | none => applyRuleFile s.audit kept report
      | some j =>
        decodeRuleFile j ++
          whenOk (Loading.ruleFile j) fun new => applyRuleFile s.audit new report
  | .scan includeUnfailed => scan includeUnfailed s.audit
  | .resolve index now =>
    whenOk (held s.problems) fun problems =>
      whenOk (held problems[index]?) fun p => resolve s.audit p now
  | .summarize => auditSummary s.audit
  | .display => s.audit.samples.flatMap (rows s.audit.ruleFile)

/-- The events of a run. -/
def run (s : Session) : List Step → List Event
  | [] => []
  | x :: rest =>
    step s x ++ run (match s.step x with | .ok (_, next) => next | .error _ => s) rest

end Conformance.Journal
