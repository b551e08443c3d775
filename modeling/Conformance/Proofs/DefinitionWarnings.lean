import Conformance.Proofs.StatusOrder
import Conformance.Warning

/-! What the warnings about a definition mean for what auditors can record. A requirement without
checks is never audited, and a check without criteria passes as soon as its condition holds. These
are the definitions that are warned about, and no others. A requirement without warnings passes only
where auditors have answered for each of its checks. -/

namespace Conformance

/-- A result in which a check is marked as not applicable, and nothing else is recorded. -/
def RequirementResult.waiving (checkId : String) : RequirementResult :=
  { checks := KeyedMap.empty.insert checkId { mark := .notApplicable } }

/-- Auditors have answered for a check: its condition does not hold, or it holds and criteria are
recorded as passed, at least one and where the logic asks for it all of them. -/
inductive Check.Answered (c : Check) (x : Option RequirementResult) : Prop
  | notApplicable : recordedMark x c.id = .notApplicable → Answered c x
  | passed : recordedMark x c.id = .passed →
    (∃ p ∈ c.criteria, recordedStatus x c.id p.id = .passed) →
    (c.logic = .all → ∀ p ∈ c.criteria, recordedStatus x c.id p.id = .passed) → Answered c x

/-! ### Checks -/

section Checks

variable {c : Check} {x : Option RequirementResult}

/-- Marked as passed with nothing else recorded, a check passes exactly if it has no criteria. -/
theorem Check.status_marked_eq_passed_iff :
    c.status (some { mark := .passed }) = .passed ↔ c.criteria = [] := by
  have hstatus : c.status (some { mark := .passed }) =
      c.logic.combine (c.criteria.map fun _ => .notAudited) := rfl
  rw [hstatus, Logic.combine_eq_passed_iff]
  simp

theorem Check.status_eq_passed_iff (hne : c.criteria ≠ []) :
    c.status (recordedCheck? x c.id) = .passed ↔ c.Answered x := by
  rw [status_recordedCheck?]
  constructor
  · intro h
    cases hmark : recordedMark x c.id with
    | notAudited => simp [hmark] at h
    | notApplicable => exact .notApplicable hmark
    | passed =>
      simp only [hmark, Logic.combine_eq_passed_iff, hne, false_or] at h
      exact .passed hmark h.1 h.2
  · rintro (hmark | ⟨hmark, hsome, hall⟩)
    · rw [hmark]
    · simp only [hmark, Logic.combine_eq_passed_iff]
      exact .inr ⟨hsome, hall⟩

theorem Check.status_waiving (c : Check) :
    c.status ((RequirementResult.waiving c.id).checks.get? c.id) = .passed := by
  rw [RequirementResult.waiving, KeyedMap.get?_insert, if_pos rfl]
  rfl

end Checks

/-! ### Requirements -/

namespace Requirement

variable {r : Requirement} {x : Option RequirementResult}

theorem status_notAudited_iff : (∀ x, r.status x = .notAudited) ↔ r.checks = [] := by
  constructor
  · intro h
    cases hchecks : r.checks with
    | nil => rfl
    | cons c rest =>
      -- One check that is not applicable is enough for the requirement to count as audited.
      have hstatus := h (some (.waiving c.id))
      rw [status_eq_rollUp, Status.rollUp_eq_notAudited_iff, List.forall_mem_map] at hstatus
      have hc := hstatus c (hchecks ▸ List.mem_cons_self)
      cases c.status_waiving.symm.trans hc
  · intro hnil x
    rw [status, hnil]
    rfl

theorem requirementWithoutChecks_mem_warnings_iff {key : String} :
    .requirementWithoutChecks key ∈ r.warnings ↔ key = r.key ∧ r.checks = [] := by
  rw [warnings]
  split
  · next hempty => simp [List.isEmpty_iff.mp hempty]
  · next hempty =>
    have hne : r.checks ≠ [] := by simpa using hempty
    simp [hne]

theorem checkWithoutCriteria_mem_warnings_iff {key id : String} :
    .checkWithoutCriteria key id ∈ r.warnings ↔
      key = r.key ∧ ∃ c ∈ r.checks, c.id = id ∧ c.criteria = [] := by
  rw [warnings]
  split
  · next hempty => simp [List.isEmpty_iff.mp hempty]
  · simp only [List.mem_map, List.mem_filter, List.isEmpty_iff, Warning.checkWithoutCriteria.injEq]
    constructor
    · rintro ⟨c, ⟨hc, hnil⟩, rfl, rfl⟩
      exact ⟨rfl, c, hc, rfl, hnil⟩
    · rintro ⟨rfl, c, hc, rfl, hnil⟩
      exact ⟨c, ⟨hc, hnil⟩, rfl, rfl⟩

theorem warnings_eq_nil_iff :
    r.warnings = [] ↔ r.checks ≠ [] ∧ ∀ c ∈ r.checks, c.criteria ≠ [] := by
  rw [warnings]
  split
  · next hempty => simp [List.isEmpty_iff.mp hempty]
  · next hempty =>
    have hne : r.checks ≠ [] := by simpa using hempty
    simp [hne]

/-- With no warnings, a requirement passes exactly if its checks are answered for. -/
theorem status_eq_passed_iff (h : r.warnings = []) :
    r.status x = .passed ↔ ∀ c ∈ r.checks, c.Answered x := by
  obtain ⟨hne, hcriteria⟩ := warnings_eq_nil_iff.mp h
  rw [status_eq_rollUp, Status.rollUp_eq_passed_iff, List.forall_mem_map,
    and_iff_right (mt List.map_eq_nil_iff.mp hne)]
  exact forall₂_congr fun c hc => Check.status_eq_passed_iff (hcriteria c hc)

/-- A requirement is warned about exactly if it is not audited whatever is recorded, and a check
exactly if it passes once it is marked as passed, with no criterion recorded. Where there is no
warning, the requirement passes exactly if auditors have answered for all its checks. -/
theorem warnings_mark_degenerate (r : Requirement) :
    (∀ key, .requirementWithoutChecks key ∈ r.warnings ↔
      key = r.key ∧ ∀ x, r.status x = .notAudited) ∧
    (∀ key id, .checkWithoutCriteria key id ∈ r.warnings ↔
      key = r.key ∧ ∃ c ∈ r.checks, c.id = id ∧ c.status (some { mark := .passed }) = .passed) ∧
    (r.warnings = [] → ∀ x, r.status x = .passed ↔ ∀ c ∈ r.checks, c.Answered x) := by
  refine ⟨fun key => ?_, fun key id => ?_, fun h x => status_eq_passed_iff h⟩
  · rw [requirementWithoutChecks_mem_warnings_iff, status_notAudited_iff]
  · simp only [checkWithoutCriteria_mem_warnings_iff, Check.status_marked_eq_passed_iff]

end Requirement

namespace Specimen

/-- Two checks under one id, with one criterion in common and different logic. -/
def sharedId : Requirement where
  key := "1.1.1"
  checks :=
    [{ id := "images", criteria := [{ id := "alt" }, { id := "logo" }] },
     { id := "images", logic := .any, criteria := [{ id := "caption" }, { id := "alt" }] }]

/-- One record for both checks, without the criterion that only the second has. -/
def answeredOnce : RequirementResult :=
  { checks := .ofList
      [("images", complied [("alt", { status := .passed }), ("logo", { status := .passed })])] }

theorem sharedId_answered : sharedId.warnings = [] ∧
    sharedId.status (some answeredOnce) = .passed ∧
    ∀ c ∈ sharedId.checks, c.Answered (some answeredOnce) := by
  have hquiet : sharedId.warnings = [] := by decide
  have hpassed : sharedId.status (some answeredOnce) = .passed := by decide
  obtain ⟨-, -, hanswered⟩ := sharedId.warnings_mark_degenerate
  exact ⟨hquiet, hpassed, (hanswered hquiet (some answeredOnce)).mp hpassed⟩

end Specimen

end Conformance
