import Conformance.Proofs.RollUp
import Conformance.Proofs.RuleFileUpdate
import Conformance.Statistics
import Mathlib.Algebra.BigOperators.Group.List.Basic
import Mathlib.Algebra.Ring.Nat

/-! The statistics count what they say, for every sample and for the whole audit, and their statuses
are those of the requirements counted. The status of the audit is also the status that its samples
make together, but for one case. -/

namespace Conformance

/-- The number of requirements with one status. -/
def StatusCounts.of (c : StatusCounts) : Status → Nat
  | .notAudited => c.notAudited
  | .partiallyAudited => c.partiallyAudited
  | .passed => c.passed
  | .failed => c.failed

/-- The computed statuses of the requirements that are relevant to the sample. -/
def Sample.statuses (f : RuleFile) (s : Sample) : List Status :=
  (f.relevant s).map fun r => r.status (s.result? r.key)

/-- A review of the result stored under `key` is pending. -/
def Sample.pending (s : Sample) (key : String) : Bool := (s.result? key).any (·.needsReview)

/-- The number of relevant requirements with a pending review. -/
def Sample.pendingCount (f : RuleFile) (s : Sample) : Nat :=
  (f.relevant s).countP fun r => s.pending r.key

theorem Status.length_eq_add_counts (statuses : List Status) : statuses.length =
    statuses.count .notAudited + statuses.count .partiallyAudited + statuses.count .passed +
      statuses.count .failed := by
  induction statuses with
  | nil => rfl
  | cons s rest ih =>
    rw [List.length_cons, ih]
    cases s <;> simp <;> omega

namespace StatusCounts

/-- The counts are those of a list of statuses, with so many reviews pending. -/
structure Tallies (c : StatusCounts) (statuses : List Status) (pending : Nat) : Prop where
  of_eq : ∀ status, c.of status = statuses.count status
  needsReview_eq : c.needsReview = pending

namespace Tallies

variable {c d : StatusCounts} {statuses more : List Status} {m n : Nat}

theorem empty : Tallies {} [] 0 := ⟨fun status => by cases status <;> rfl, rfl⟩

theorem record (h : c.Tallies statuses n) (status : Status) (pending : Bool) :
    (c.record status pending).Tallies (statuses ++ [status]) (n + if pending then 1 else 0) where
  of_eq other := by
    rw [List.count_append, ← h.of_eq]
    cases status <;> cases other <;> cases pending <;> rfl
  needsReview_eq := by
    rw [← h.needsReview_eq]
    cases status <;> cases pending <;> rfl

theorem merge (hc : c.Tallies statuses m) (hd : d.Tallies more n) :
    (c.merge d).Tallies (statuses ++ more) (m + n) where
  of_eq status := by
    rw [List.count_append, ← hc.of_eq, ← hd.of_eq]
    cases status <;> rfl
  needsReview_eq := by
    rw [← hc.needsReview_eq, ← hd.needsReview_eq]
    rfl

theorem foldl_record {α : Type} (h : c.Tallies statuses n) (status : α → Status)
    (pending : α → Bool) (as : List α) :
    (as.foldl (fun c a => c.record (status a) (pending a)) c).Tallies
      (statuses ++ as.map status) (n + as.countP pending) := by
  -- The tallied list grows at its end, so the counts at the start are those of any list.
  induction as generalizing c statuses n with
  | nil => simpa using h
  | cons a rest ih =>
    have hpending : n + (a :: rest).countP pending =
        n + (if pending a then 1 else 0) + rest.countP pending := by
      rw [List.countP_cons]
      omega
    rw [List.foldl_cons, List.map_cons, List.append_cons, hpending]
    exact ih (h.record (status a) (pending a))

theorem foldl_merge {α : Type} {counts : α → StatusCounts} {parts : α → List Status}
    {pending : α → Nat} (hparts : ∀ a, (counts a).Tallies (parts a) (pending a))
    (h : c.Tallies statuses n) (as : List α) :
    (as.foldl (fun c a => c.merge (counts a)) c).Tallies
      (statuses ++ as.flatMap parts) (n + (as.map pending).sum) := by
  induction as generalizing c statuses n with
  | nil => simpa using h
  | cons a rest ih =>
    rw [List.foldl_cons, List.flatMap_cons, List.map_cons, List.sum_cons, ← List.append_assoc,
      ← Nat.add_assoc]
    exact ih (h.merge (hparts a))

theorem total_eq (h : c.Tallies statuses n) : c.total = statuses.length := by
  rw [Status.length_eq_add_counts, ← h.of_eq, ← h.of_eq, ← h.of_eq, ← h.of_eq]
  rfl

theorem status_eq (h : c.Tallies statuses n) : c.status = .rollUp statuses := by
  rw [Status.rollUp, ← h.total_eq, ← h.of_eq, ← h.of_eq, ← h.of_eq]
  rfl

end Tallies
end StatusCounts

/-- The statistics of a sample are those of its relevant requirements. -/
structure SampleSummary.Describes (t : SampleSummary) (f : RuleFile) (s : Sample) : Prop where
  sampleId : t.sampleId = s.id
  total : t.counts.total = (f.relevant s).length
  of_eq : ∀ status, t.counts.of status =
    (f.relevant s).countP fun r => r.status (s.result? r.key) = status
  needsReview : t.counts.needsReview = (f.relevant s).countP fun r => s.pending r.key
  status : t.status = .rollUp (s.statuses f)

variable {s : Sample} {f : RuleFile}

theorem Sample.tallies_summary :
    (s.summary f).counts.Tallies (s.statuses f) (s.pendingCount f) := by
  have h := StatusCounts.Tallies.empty.foldl_record (fun r => r.status (s.result? r.key))
    (fun r => s.pending r.key) (f.relevant s)
  rwa [List.nil_append, Nat.zero_add] at h

theorem Sample.describes_summary : (s.summary f).Describes f s where
  sampleId := rfl
  total := by rw [tallies_summary.total_eq, statuses, List.length_map]
  of_eq status := by
    rw [tallies_summary.of_eq, statuses, List.count, List.countP_map]
    rfl
  needsReview := tallies_summary.needsReview_eq
  status := tallies_summary.status_eq

namespace Audit

variable (a : Audit)

theorem tallies_summary : a.summary.totals.Tallies (a.samples.flatMap (Sample.statuses a.ruleFile))
    (a.samples.map (Sample.pendingCount a.ruleFile)).sum := by
  have h := StatusCounts.Tallies.empty.foldl_merge
    (fun s : Sample => s.tallies_summary (f := a.ruleFile)) a.samples
  rw [List.nil_append, Nat.zero_add] at h
  rwa [summary, List.foldl_map]

theorem map_status_summary : a.summary.samples.map (·.status) =
    (a.samples.map (Sample.statuses a.ruleFile)).map Status.rollUp := by
  rw [summary, List.map_map, List.map_map]
  exact List.map_congr_left fun s _ => s.describes_summary.status

/-- The one case in which the samples together have another status than all requirements together. -/
theorem status_summary_ne_iff :
    a.summary.status ≠ .rollUp (a.summary.samples.map (·.status)) ↔
      (∃ s ∈ a.samples, a.ruleFile.relevant s = []) ∧
      (∃ s ∈ a.samples, a.ruleFile.relevant s ≠ []) ∧
      ∀ s ∈ a.samples, ∀ r ∈ a.ruleFile.relevant s, r.status (s.result? r.key) = .passed := by
  have hstatus : a.summary.status =
      .rollUp (a.samples.map (Sample.statuses a.ruleFile)).flatten := by
    rw [← List.flatMap_def]
    exact a.tallies_summary.status_eq
  have hempty : [] ∈ a.samples.map (Sample.statuses a.ruleFile) ↔
      ∃ s ∈ a.samples, a.ruleFile.relevant s = [] := by
    simp only [List.mem_map, Sample.statuses, List.map_eq_nil_iff]
  have hfilled : (a.samples.map (Sample.statuses a.ruleFile)).flatten ≠ [] ↔
      ∃ s ∈ a.samples, a.ruleFile.relevant s ≠ [] := by
    simp [Sample.statuses]
  have hpassed : (∀ x ∈ (a.samples.map (Sample.statuses a.ruleFile)).flatten, x = .passed) ↔
      ∀ s ∈ a.samples, ∀ r ∈ a.ruleFile.relevant s, r.status (s.result? r.key) = .passed := by
    simp only [List.forall_mem_flatten, List.forall_mem_map, Sample.statuses]
  rw [hstatus, map_status_summary, Status.rollUp_flatten_ne_iff, hempty, hfilled, hpassed]

/-- The statistics of an audit at every level. -/
theorem summary_levels :
    List.Forall₂ (fun s t => t.Describes a.ruleFile s) a.samples a.summary.samples ∧
    (∀ status, a.summary.totals.of status = (a.summary.samples.map (·.counts.of status)).sum) ∧
    a.summary.totals.needsReview = (a.summary.samples.map (·.counts.needsReview)).sum ∧
    a.summary.status = .rollUp (a.samples.flatMap (Sample.statuses a.ruleFile)) ∧
    (a.summary.status ≠ .rollUp (a.summary.samples.map (·.status)) ↔
      (∃ s ∈ a.samples, a.ruleFile.relevant s = []) ∧
      (∃ s ∈ a.samples, a.ruleFile.relevant s ≠ []) ∧
      ∀ s ∈ a.samples, ∀ r ∈ a.ruleFile.relevant s, r.status (s.result? r.key) = .passed) := by
  refine ⟨?samples, fun status => ?totals, ?needsReview, a.tallies_summary.status_eq,
    a.status_summary_ne_iff⟩
  case samples =>
    rw [summary, List.forall₂_map_right_iff]
    exact List.forall₂_same.mpr fun s _ => s.describes_summary
  case totals =>
    rw [a.tallies_summary.of_eq, List.count_flatMap, summary, List.map_map]
    exact congrArg List.sum
      (List.map_congr_left fun s _ => (s.tallies_summary.of_eq status).symm)
  case needsReview =>
    rw [a.tallies_summary.needsReview_eq, summary, List.map_map]
    exact congrArg List.sum (List.map_congr_left fun s _ => s.tallies_summary.needsReview_eq.symm)

end Audit

namespace Specimen

/-- A page on which the requirement does not apply, and one to which it is not even relevant. -/
def withVideoPage : Audit where
  ruleFile := { first with requirements := [kept] }
  samples :=
    [{ id := "page"
       results := .ofList [("kept", { checks := .ofList [("images", { mark := .notApplicable })] })] },
     { id := "video", selectedContentTypes := ["video"] }]

example : withVideoPage.summary.status = .passed ∧
    Status.rollUp (withVideoPage.summary.samples.map (·.status)) = .partiallyAudited := by decide

end Specimen

end Conformance
