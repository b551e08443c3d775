import Conformance.Proofs.RuleFileUpdate
import Conformance.Proofs.StatusRules
import Mathlib.Data.Nat.Basic
import Mathlib.Order.Basic

/-! Better findings never make a worse status. Findings on a criterion are ordered from failed over
not audited to passed, and statuses from failed over partially audited to passed; a status that is
not audited stands apart and can only stay. Each level carries the order to the next. Since it is a
partial order, results with the same findings on what is declared have the same status. -/

namespace Conformance

/-! ### The two orders -/

def CriterionStatus.rank : CriterionStatus → Nat
  | .failed => 0
  | .notAudited => 1
  | .passed => 2

instance : PartialOrder CriterionStatus :=
  PartialOrder.lift CriterionStatus.rank fun s t h => by
    cases s <;> cases t <;> first | rfl | cases h

instance (s t : CriterionStatus) : Decidable (s ≤ t) :=
  inferInstanceAs (Decidable (s.rank ≤ t.rank))

inductive Status.AtMost : Status → Status → Prop
  | refl (s : Status) : AtMost s s
  | failed_partiallyAudited : AtMost .failed .partiallyAudited
  | partiallyAudited_passed : AtMost .partiallyAudited .passed
  | failed_passed : AtMost .failed .passed

instance : PartialOrder Status where
  le := Status.AtMost
  le_refl := .refl
  le_trans _ _ _ hst htu := by cases hst <;> cases htu <;> constructor
  le_antisymm _ _ hst hts := by
    cases hst with
    | refl => rfl
    | _ => cases hts

theorem CriterionStatus.eq_passed_of_le {s t : CriterionStatus} (h : s ≤ t) (hs : s = .passed) :
    t = .passed := by
  subst hs
  cases t <;> first | rfl | exact absurd h (by decide)

theorem CriterionStatus.eq_failed_of_le {s t : CriterionStatus} (h : s ≤ t) (ht : t = .failed) :
    s = .failed := by
  subst ht
  cases s <;> first | rfl | exact absurd h (by decide)

/-- To compare two statuses, it is enough to look at three of them. -/
theorem Status.le_iff {s t : Status} : s ≤ t ↔ (s = .notAudited ↔ t = .notAudited) ∧
    (s = .passed → t = .passed) ∧ (t = .failed → s = .failed) := by
  constructor
  · rintro (_ | _ | _ | _) <;> simp
  · intro h
    cases s <;> cases t <;> first | exact absurd h (by decide) | constructor

/-! ### From each level to the next -/

section Levels

variable {α : Type} {as : List α}

theorem Logic.combine_mono (logic : Logic) {f g : α → CriterionStatus}
    (h : ∀ a ∈ as, f a ≤ g a) : logic.combine (as.map f) ≤ logic.combine (as.map g) := by
  have hne : ∀ statuses, logic.combine statuses ≠ .notAudited := fun _ heq =>
    nomatch combine_eq_iff.mp heq
  refine Status.le_iff.mpr ⟨iff_of_false (hne _) (hne _), ?passed, ?failed⟩
  case passed =>
    have hkept : ∀ a ∈ as, f a = .passed → g a = .passed := fun a ha =>
      CriterionStatus.eq_passed_of_le (h a ha)
    rw [combine_eq_passed_iff, combine_eq_passed_iff]
    rintro (hnil | ⟨⟨a, ha, hf⟩, hall⟩)
    · exact .inl hnil
    · exact .inr ⟨⟨a, ha, hkept a ha hf⟩, fun hlogic b hb => hkept b hb (hall hlogic b hb)⟩
  case failed =>
    intro hfailed
    rw [combine_eq_iff] at hfailed ⊢
    cases hfailed with
    | someFailed hmem =>
      obtain ⟨a, ha, hg⟩ := List.mem_map.mp hmem
      exact .someFailed (List.mem_map.mpr ⟨a, ha, CriterionStatus.eq_failed_of_le (h a ha) hg⟩)
    | allFailed hne hall =>
      rw [List.forall_mem_map] at hall
      exact .allFailed (by simpa using hne) (List.forall_mem_map.mpr fun a ha =>
        CriterionStatus.eq_failed_of_le (h a ha) (hall a ha))

theorem Status.rollUp_mono {f g : α → Status} (h : ∀ a ∈ as, f a ≤ g a) :
    rollUp (as.map f) ≤ rollUp (as.map g) := by
  refine le_iff.mpr ⟨?notAudited, ?passed, ?failed⟩
  case notAudited =>
    rw [rollUp_eq_notAudited_iff, rollUp_eq_notAudited_iff, List.forall_mem_map,
      List.forall_mem_map]
    exact forall₂_congr fun a ha => (le_iff.mp (h a ha)).1
  case passed =>
    rw [rollUp_eq_passed_iff, rollUp_eq_passed_iff, List.forall_mem_map, List.forall_mem_map]
    rintro ⟨hne, hall⟩
    exact ⟨by simpa using hne, fun a ha => (le_iff.mp (h a ha)).2.1 (hall a ha)⟩
  case failed =>
    rw [rollUp_eq_failed_iff, rollUp_eq_failed_iff, List.mem_map, List.mem_map]
    rintro ⟨a, ha, hg⟩
    exact ⟨a, ha, (le_iff.mp (h a ha)).2.2 hg⟩

end Levels

/-! ### Findings -/

/-- What a result records for a check. -/
def recordedCheck? (x : Option RequirementResult) (checkId : String) : Option CheckResult :=
  x.bind fun y => y.checks.get? checkId

def recordedMark (x : Option RequirementResult) (checkId : String) : CheckMark :=
  ((recordedCheck? x checkId).map (·.mark)).getD .notAudited

def recordedStatus (x : Option RequirementResult) (checkId criterionId : String) :
    CriterionStatus :=
  ((recordedCheck? x checkId).map (·.criterionStatus criterionId)).getD .notAudited

/-- Two results with the same marks of the declared checks, and with statuses of their declared
criteria that are in relation. -/
structure Requirement.Compares (r : Requirement) (rel : CriterionStatus → CriterionStatus → Prop)
    (x y : Option RequirementResult) : Prop where
  mark : ∀ c ∈ r.checks, recordedMark x c.id = recordedMark y c.id
  criterion : ∀ c ∈ r.checks, ∀ p ∈ c.criteria,
    rel (recordedStatus x c.id p.id) (recordedStatus y c.id p.id)

section Findings

variable {r : Requirement} {x y : Option RequirementResult}

theorem Check.status_recordedCheck? (c : Check) (x : Option RequirementResult) :
    c.status (recordedCheck? x c.id) =
      match recordedMark x c.id with
      | .notAudited => .notAudited
      | .notApplicable => .passed
      | .passed => c.logic.combine (c.criteria.map fun p => recordedStatus x c.id p.id) := by
  simp only [recordedMark, recordedStatus]
  cases recordedCheck? x c.id <;> rfl

theorem Check.status_mono {c : Check} (hmark : recordedMark x c.id = recordedMark y c.id)
    (hcriteria : ∀ p ∈ c.criteria, recordedStatus x c.id p.id ≤ recordedStatus y c.id p.id) :
    c.status (recordedCheck? x c.id) ≤ c.status (recordedCheck? y c.id) := by
  rw [status_recordedCheck?, status_recordedCheck?, hmark]
  cases recordedMark y c.id with
  | notAudited => exact le_rfl
  | notApplicable => exact le_rfl
  | passed => exact c.logic.combine_mono hcriteria

/-- With better findings under the same marks the status is as good or better, and with the same
findings it is the same, whatever else the results hold. -/
theorem Requirement.status_monotone (r : Requirement) (x y : Option RequirementResult) :
    (r.Compares (· ≤ ·) x y → r.status x ≤ r.status y) ∧
    (r.Compares (· = ·) x y → r.status x = r.status y) := by
  have hmono : ∀ {x y}, r.Compares (· ≤ ·) x y → r.status x ≤ r.status y := by
    intro x y h
    rw [status_eq_rollUp, status_eq_rollUp]
    exact Status.rollUp_mono fun c hc => Check.status_mono (h.mark c hc) (h.criterion c hc)
  -- Equal findings are at least as good in both directions.
  refine ⟨hmono, fun h => le_antisymm (hmono ⟨h.mark, ?_⟩) (hmono ⟨?_, ?_⟩)⟩
  · exact fun c hc p hp => (h.criterion c hc p hp).le
  · exact fun c hc => (h.mark c hc).symm
  · exact fun c hc p hp => (h.criterion c hc p hp).ge

end Findings

namespace Specimen

/-- The check complied with, and what is recorded for its criteria. -/
def complied (criteria : List (String × CriterionResult)) : CheckResult :=
  { mark := .passed, criteria := .ofList criteria }

def finding (status : CriterionStatus) : RequirementResult :=
  { checks := .ofList [("images", complied [("alt", { status })])] }

/-- The only criterion passed, among much that says nothing about the requirement. -/
def cluttered : RequirementResult where
  status := .failed
  needsReview := true
  observation := "No text on the logo"
  checks := .ofList
    [("images", complied [("alt", { status := .passed, stuckText := "Is this right?" }),
        ("old", { status := .failed })]),
     ("links", { mark := .notApplicable })]

theorem kept_status_mono :
    kept.Compares (· ≤ ·) (some (finding .failed)) (some cluttered) ∧
    kept.Compares (· = ·) (some (finding .passed)) (some cluttered) ∧
    kept.status (some (finding .failed)) ≤ kept.status (some cluttered) ∧
    kept.status (some (finding .passed)) = kept.status (some cluttered) := by
  have hbetter : kept.Compares (· ≤ ·) (some (finding .failed)) (some cluttered) :=
    ⟨by decide, by decide⟩
  have hsame : kept.Compares (· = ·) (some (finding .passed)) (some cluttered) :=
    ⟨by decide, by decide⟩
  exact ⟨hbetter, hsame, (kept.status_monotone _ _).1 hbetter, (kept.status_monotone _ _).2 hsame⟩

end Specimen

end Conformance
