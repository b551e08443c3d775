import Conformance.Proofs.EditCommit
import Conformance.Proofs.Operation
import Conformance.Proofs.ProblemScan
import Conformance.Proofs.UpdateFixpoint
import Mathlib.Logic.Relation

/-! Stored results and the rule file stay aligned. Whatever the audit was before, its first rule-file
update leaves a valid rule file that defines every key with a stored result. Later updates, solved
problems, committed edits and writes under defined keys all keep that, and none of them takes
anything from the history of dropped results or changes it. -/

namespace Conformance

open Relation

/-- What the three ways to write a result can give, under any definition and with any previous
result and findings. -/
inductive RequirementResult.Written : RequirementResult → Prop
  | recorded (r : Requirement) (previous : Option RequirementResult) (findings : RequirementResult)
    (now : Timestamp) : Written (r.applyUpdate previous findings now)
  | acknowledged {r : Requirement} {x y : RequirementResult} (h : r.acknowledge x = .ok y) :
    Written y
  | reaudited {r : Requirement} {previous findings y : RequirementResult} {now : Timestamp}
    (h : r.reaudit previous findings now = .ok y) : Written y

namespace Audit

/-- One step that is not refused. A written result may come from anywhere, as long as the active rule
file defines its key; an edit may be analyzed under any rule file. -/
inductive Step (a : Audit) : Audit → Prop
  | update {new : RuleFile} {report : ChangeReport} {b : Audit}
    (h : a.applyRuleFile new report = .ok b) : Step a b
  | resolve {p : Problem} {now : Timestamp} {b : Audit} (h : a.resolve p now = .ok b) : Step a b
  | commit {i : Nat} {s t : Sample} {file : RuleFile} {e : SampleEdit} {impact : EditImpact}
    {retention : OrphanRetention} (hs : a.samples[i]? = some s)
    (h : e.commit file s impact retention = .ok t) : Step a (a.setSampleAt i t)
  | write {i : Nat} {s : Sample} {key : String} {y : RequirementResult}
    (hs : a.samples[i]? = some s) (hkey : a.ruleFile.contains key = true) (hy : y.Written) :
    Step a (a.setSampleAt i { s with results := s.results.insert key y })

variable {a b c : Audit} {i : Nat} {s t : Sample} {key : String}

/-! ### Orphaned results -/

theorem mem_orphanedResultKeys {sampleId : String} : (sampleId, key) ∈ a.orphanedResultKeys ↔
    ∃ s ∈ a.samples, s.id = sampleId ∧ key ∈ s.results.keys ∧ key ∉ a.ruleFile.keys := by
  simp only [orphanedResultKeys, List.mem_flatMap, List.mem_map, List.mem_filter, Prod.mk.injEq,
    Bool.not_eq_true', ← RuleFile.contains_iff, Bool.not_eq_true]
  constructor
  · rintro ⟨s, hs, k, ⟨hkey, horphan⟩, hid, rfl⟩
    exact ⟨s, hs, hid, hkey, horphan⟩
  · rintro ⟨s, hs, hid, hkey, horphan⟩
    exact ⟨s, hs, key, ⟨hkey, horphan⟩, hid, rfl⟩

theorem orphanedResultKeys_of_aligned (h : a.Aligned) : a.orphanedResultKeys = [] := by
  rw [List.eq_nil_iff_forall_not_mem]
  rintro ⟨sampleId, key⟩ horphan
  obtain ⟨s, hs, -, hkey, hlost⟩ := mem_orphanedResultKeys.mp horphan
  exact hlost (h s hs key hkey)

/-- The scan warns of an orphaned result exactly where there is one. -/
theorem orphanedResult_mem_warnings {includeUnfailed : Bool} {sampleId : String} :
    .orphanedResult sampleId key ∈ (a.scan includeUnfailed).warnings ↔
      (sampleId, key) ∈ a.orphanedResultKeys := by
  rw [warnings_scan, List.mem_append, orphanWarnings]
  constructor
  · rintro (hstuck | horphan)
    · obtain ⟨p, -, hp⟩ := List.mem_filterMap.mp hstuck
      have hat := Position.stuckAt?_of_warning? hp
      cases hat
    · obtain ⟨e, he, heq⟩ := List.mem_map.mp horphan
      obtain ⟨rfl, rfl⟩ := Warning.orphanedResult.inj heq
      exact he
  · exact fun h => .inr (List.mem_map.mpr ⟨_, h, rfl⟩)

/-! ### One step -/

theorem Aligned.setSampleAt (h : a.Aligned) (ht : ∀ key ∈ t.results.keys, key ∈ a.ruleFile.keys) :
    (a.setSampleAt i t).Aligned := by
  intro u hu
  rcases List.mem_or_eq_of_mem_set hu with hu | rfl
  · exact h u hu
  · exact ht

theorem Aligned.insert {y : RequirementResult} (h : a.Aligned) (hs : a.samples[i]? = some s)
    (hkey : a.ruleFile.contains key = true) :
    (a.setSampleAt i { s with results := s.results.insert key y }).Aligned := by
  refine h.setSampleAt fun k hk => ?_
  rcases KeyedMap.mem_keys_insert.mp hk with rfl | hold
  · exact RuleFile.contains_iff.mp hkey
  · exact h s (List.mem_of_getElem? hs) k hold

theorem Aligned.commit {file : RuleFile} {e : SampleEdit} {impact : EditImpact}
    {retention : OrphanRetention} (h : a.Aligned) (hs : a.samples[i]? = some s)
    (ht : e.commit file s impact retention = .ok t) : (a.setSampleAt i t).Aligned := by
  refine h.setSampleAt fun k hk => ?_
  obtain ⟨x, hx⟩ := Option.isSome_iff_exists.mp (Sample.mem_keys_iff.mp hk)
  have hold : s.result? k = some x := SampleEdit.result?_of_commit ht hx
  exact h s (List.mem_of_getElem? hs) k (Sample.mem_keys_iff.mpr (Option.isSome_of_eq_some hold))

/-- The rule file is valid, and every stored result has its requirement in it. -/
structure Keyed (a : Audit) : Prop where
  valid : a.ruleFile.validate = .ok ()
  aligned : a.Aligned

/-- An accepted update needs nothing of the audit before. -/
theorem keyed_of_applyRuleFile {new : RuleFile} {report : ChangeReport}
    (h : a.applyRuleFile new report = .ok b) : b.Keyed := by
  obtain ⟨hvalid, rfl⟩ := eq_reconcile_of_applyRuleFile h
  exact ⟨hvalid, aligned_reconcile⟩

theorem Keyed.step (h : a.Keyed) (hstep : Step a b) : b.Keyed := by
  cases hstep with
  | update happly => exact keyed_of_applyRuleFile happly
  | resolve hresolve =>
    -- Also where no result was stored: the key of the new one is looked up in the rule file first.
    cases transition_of_resolve hresolve with
    | update hop hvalid => cases hop
    | edit hop hs ht => cases hop
    | write htarget hs hr hy =>
      exact ⟨h.valid, h.aligned.insert hs (RuleFile.contains_of_requirement? hr)⟩
  | commit hs ht => exact ⟨h.valid, h.aligned.commit hs ht⟩
  | write hs hkey hy => exact ⟨h.valid, h.aligned.insert hs hkey⟩

theorem tombstones_of_step (hstep : Step a b) : a.tombstones <+: b.tombstones := by
  cases hstep with
  | update happly =>
    obtain ⟨-, rfl⟩ := eq_reconcile_of_applyRuleFile happly
    exact List.prefix_append _ _
  | resolve hresolve =>
    cases transition_of_resolve hresolve with
    | update hop hvalid => cases hop
    | edit hop hs ht => cases hop
    | write htarget hs hr hy => exact List.prefix_rfl
  | commit hs ht => exact List.prefix_rfl
  | write hs hkey hy => exact List.prefix_rfl

/-! ### Whole runs -/

theorem Keyed.run (h : a.Keyed) (hrun : ReflTransGen Step a b) : b.Keyed := by
  induction hrun with
  | refl => exact h
  | tail _ hstep ih => exact ih.step hstep

theorem tombstones_of_run (hrun : ReflTransGen Step a b) : a.tombstones <+: b.tombstones := by
  induction hrun with
  | refl => exact List.prefix_rfl
  | tail _ hstep ih => exact ih.trans (tombstones_of_step hstep)

/-- From the first update on, every audit that a run reaches has a valid rule file and no orphaned
result, and what it keeps of dropped results stays at the front of the history in every audit after
it. -/
theorem aligned_from_first_update {d : Audit} {new : RuleFile} {report : ChangeReport}
    (hfirst : a.applyRuleFile new report = .ok b) (hrun : ReflTransGen Step b c)
    (hlater : ReflTransGen Step c d) :
    c.ruleFile.validate = .ok () ∧ c.orphanedResultKeys = [] ∧
      (∀ includeUnfailed sampleId key,
        .orphanedResult sampleId key ∉ (c.scan includeUnfailed).warnings) ∧
      a.tombstones <+: c.tombstones ∧ c.tombstones <+: d.tombstones := by
  have hkeyed : c.Keyed := (keyed_of_applyRuleFile hfirst).run hrun
  have horphans : c.orphanedResultKeys = [] := orphanedResultKeys_of_aligned hkeyed.aligned
  refine ⟨hkeyed.valid, horphans, fun includeUnfailed sampleId key hwarning => ?_, ?_,
    tombstones_of_run hlater⟩
  · rw [orphanedResult_mem_warnings, horphans] at hwarning
    cases hwarning
  · exact (tombstones_of_step (.update hfirst)).trans (tombstones_of_run hrun)

end Audit

namespace Specimen

/-- A misaligned audit whose rule file repeats a key, with one more sample that has no results. -/
def withEmptySample : Audit := { repeatedKeys with samples := { id := "new" } :: audit.samples }

def solvedOnNew : Problem :=
  .of { id := "new" } kept images { id := "alt", requirement := "Every image has a text alternative" } {}

/-- An edit after which the requirement on images is not relevant any more. -/
def videosOnly : SampleEdit := { selectedContentTypes := some ["video"] }

/-- After the update a problem is solved where no result was stored, an edit discards results, and
then the review of the result that came back is acknowledged. -/
theorem aligned_after_edit : withEmptySample.ruleFile.validate = .error (.duplicateKey "kept") ∧
    ¬withEmptySample.Aligned ∧ ∃ b c d,
      withEmptySample.applyRuleFile second (withEmptySample.changeReport second) = .ok b ∧
      Relation.ReflTransGen Audit.Step b c ∧ Relation.ReflTransGen Audit.Step c d ∧
      c.ruleFile.validate = .ok () ∧ c.orphanedResultKeys = [] ∧
      (∀ includeUnfailed sampleId key,
        .orphanedResult sampleId key ∉ (c.scan includeUnfailed).warnings) ∧
      withEmptySample.tombstones <+: c.tombstones ∧ c.tombstones <+: d.tombstones := by
  have hfirst : withEmptySample.applyRuleFile second (withEmptySample.changeReport second) =
      .ok (withEmptySample.reconcile second) := Audit.applyRuleFile_changeReport (by decide)
  have hresolve : (withEmptySample.reconcile second).resolve solvedOnNew noon = .ok _ := rfl
  obtain ⟨c, hrun, hfile, s, hs⟩ : ∃ c,
      Relation.ReflTransGen Audit.Step (withEmptySample.reconcile second) c ∧
      c.ruleFile = second ∧ ∃ s, c.samples[1]? = some s :=
    ⟨_, (Relation.ReflTransGen.single (.resolve hresolve)).tail
      (.commit (i := 1) rfl (SampleEdit.commit_eq (e := videosOnly) (f := second) rfl .discard)),
      rfl, _, rfl⟩
  have hback : c.ruleFile.contains "back" = true := by
    rw [hfile]
    decide
  have hreview : back.acknowledge { needsReview := true } = .ok _ := rfl
  have hlater := Relation.ReflTransGen.single (Audit.Step.write hs hback (.acknowledged hreview))
  exact ⟨by decide, by decide, _, c, _, hfirst, hrun, hlater,
    Audit.aligned_from_first_update hfirst hrun hlater⟩

end Specimen

end Conformance
