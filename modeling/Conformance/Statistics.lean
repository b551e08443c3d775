import Conformance.Aggregation
import Conformance.Audit.Form
import Conformance.Binary64
import Conformance.Relevance

/-! Counts of computed statuses, per sample and for the whole audit. -/

namespace Conformance

/-- Counts of computed statuses. A pending review is counted besides the status, not in its
place. -/
structure StatusCounts where
  notAudited : Nat := 0
  partiallyAudited : Nat := 0
  passed : Nat := 0
  failed : Nat := 0
  needsReview : Nat := 0
deriving DecidableEq, Repr, Inhabited

namespace StatusCounts

/-- The counts with one more requirement. -/
def record (c : StatusCounts) (status : Status) (needsReview : Bool) : StatusCounts :=
  let c := if needsReview then { c with needsReview := c.needsReview + 1 } else c
  match status with
  | .notAudited => { c with notAudited := c.notAudited + 1 }
  | .partiallyAudited => { c with partiallyAudited := c.partiallyAudited + 1 }
  | .passed => { c with passed := c.passed + 1 }
  | .failed => { c with failed := c.failed + 1 }

/-- The sums of the counts. -/
def merge (a b : StatusCounts) : StatusCounts where
  notAudited := a.notAudited + b.notAudited
  partiallyAudited := a.partiallyAudited + b.partiallyAudited
  passed := a.passed + b.passed
  failed := a.failed + b.failed
  needsReview := a.needsReview + b.needsReview

def total (c : StatusCounts) : Nat := c.notAudited + c.partiallyAudited + c.passed + c.failed

/-- The requirements with a final verdict. -/
def completed (c : StatusCounts) : Nat := c.passed + c.failed

/-- The share of completed requirements; zero if there are none. -/
def progress (c : StatusCounts) : Binary64 :=
  if c.total = 0 then ⟨0⟩ else Binary64.quotient c.completed c.total

/-- The status of the whole under the rules for requirements. -/
def status (c : StatusCounts) : Status := .ofCounts c.total c.notAudited c.passed c.failed

end StatusCounts

/-- The statistics of one sample over its relevant requirements. -/
structure SampleSummary where
  sampleId : String
  counts : StatusCounts
  status : Status
deriving DecidableEq, Repr

/-- The statistics of the whole audit. -/
structure AuditSummary where
  samples : List SampleSummary
  totals : StatusCounts
  status : Status
deriving DecidableEq, Repr

def Sample.summary (f : RuleFile) (s : Sample) : SampleSummary :=
  let counts := (f.relevant s).foldl (fun (counts : StatusCounts) r =>
    let result := s.result? r.key
    counts.record (r.status result) (result.any (·.needsReview))) {}
  { sampleId := s.id, counts, status := counts.status }

def Audit.summary (a : Audit) : AuditSummary :=
  let samples := a.samples.map (Sample.summary a.ruleFile)
  let totals := samples.foldl (fun totals s => totals.merge s.counts) {}
  { samples, totals, status := totals.status }

open RecordReader

instance : JsonForm StatusCounts where
  toJson c := .object [("notAudited", toJson c.notAudited),
    ("partiallyAudited", toJson c.partiallyAudited), ("passed", toJson c.passed),
    ("failed", toJson c.failed), ("needsReview", toJson c.needsReview)]
  ofJson? := run do
    let notAudited ← required "notAudited"
    let partiallyAudited ← required "partiallyAudited"
    let passed ← required "passed"
    let failed ← required "failed"
    let needsReview ← required "needsReview"
    return { notAudited, partiallyAudited, passed, failed, needsReview }

instance : JsonForm SampleSummary where
  toJson s := .object [("sampleId", toJson s.sampleId), ("counts", toJson s.counts),
    ("status", toJson s.status)]
  ofJson? := run do
    let sampleId ← required "sampleId"
    let counts ← required "counts"
    let status ← required "status"
    return { sampleId, counts, status }

instance : JsonForm AuditSummary where
  toJson s := .object [("samples", toJson s.samples), ("totals", toJson s.totals),
    ("status", toJson s.status)]
  ofJson? := run do
    let samples ← required "samples"
    let totals ← required "totals"
    let status ← required "status"
    return { samples, totals, status }

end Conformance
