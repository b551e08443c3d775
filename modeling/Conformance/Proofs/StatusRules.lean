import Conformance.Proofs.RollUp
import Mathlib.Data.List.Forall2

/-! The rules by which statuses are computed, as relations with one constructor for each rule: for a
criterion, for the criteria of a check under either logic, for a check, and for a requirement. The
computed statuses are exactly those that the rules give. So the rules leave no case open, and no two
of them disagree. -/

namespace Conformance

/-- The status of a criterion in the record of its check. -/
inductive CheckResult.Gives (y : CheckResult) (id : String) : CriterionStatus → Prop
  | missing : y.criteria.get? id = none → Gives y id .notAudited
  | recorded {z : CriterionResult} : y.criteria.get? id = some z → Gives y id z.status

/-- What the statuses of the criteria make of a check whose condition holds. -/
inductive Logic.Judges : Logic → List CriterionStatus → Status → Prop
  | allPassed {statuses} : (∀ s ∈ statuses, s = .passed) → Judges .all statuses .passed
  | someFailed {statuses} : .failed ∈ statuses → Judges .all statuses .failed
  | allOpen {statuses} : (∃ s ∈ statuses, s ≠ .passed) → .failed ∉ statuses →
    Judges .all statuses .partiallyAudited
  | noCriteria {statuses} : statuses = [] → Judges .any statuses .passed
  | somePassed {statuses} : .passed ∈ statuses → Judges .any statuses .passed
  | allFailed {statuses} : statuses ≠ [] → (∀ s ∈ statuses, s = .failed) →
    Judges .any statuses .failed
  | anyOpen {statuses} : .passed ∉ statuses → (∃ s ∈ statuses, s ≠ .failed) →
    Judges .any statuses .partiallyAudited

inductive Check.HasStatus (c : Check) : Option CheckResult → Status → Prop
  | missing : HasStatus c none .notAudited
  | notAudited {y : CheckResult} : y.mark = .notAudited → HasStatus c (some y) .notAudited
  | notApplicable {y : CheckResult} : y.mark = .notApplicable → HasStatus c (some y) .passed
  | judged {y : CheckResult} {statuses : List CriterionStatus} {s : Status} : y.mark = .passed →
    List.Forall₂ (fun p t => y.Gives p.id t) c.criteria statuses → c.logic.Judges statuses s →
    HasStatus c (some y) s

/-- What the statuses of the checks make of a requirement. -/
inductive Status.RollsUp : List Status → Status → Prop
  | notAudited {statuses} : (∀ s ∈ statuses, s = .notAudited) → RollsUp statuses .notAudited
  | failed {statuses} : .failed ∈ statuses → RollsUp statuses .failed
  | passed {statuses} : statuses ≠ [] → (∀ s ∈ statuses, s = .passed) → RollsUp statuses .passed
  | partiallyAudited {statuses} : (∃ s ∈ statuses, s ≠ .notAudited) → .failed ∉ statuses →
    (∃ s ∈ statuses, s ≠ .passed) → RollsUp statuses .partiallyAudited

inductive Requirement.HasStatus (r : Requirement) (x : Option RequirementResult) (s : Status) : Prop
  | rolledUp {statuses : List Status} :
    List.Forall₂ (fun c t => c.HasStatus (x.bind fun y => y.checks.get? c.id) t) r.checks statuses →
    Status.RollsUp statuses s → HasStatus r x s

/-! ### Criteria -/

theorem CheckResult.criterionStatus_eq_iff {y : CheckResult} {id : String} {s : CriterionStatus} :
    y.criterionStatus id = s ↔ y.Gives id s := by
  constructor
  · rintro rfl
    rw [criterionStatus]
    cases hz : y.criteria.get? id with
    | none => exact .missing hz
    | some z => exact .recorded hz
  · rintro (hnone | hz)
    · rw [criterionStatus, hnone]
      rfl
    · rw [criterionStatus, hz]
      rfl

namespace Logic

variable {statuses : List CriterionStatus} {s : Status}

theorem combine_all_eq (statuses : List CriterionStatus) : combine .all statuses =
    if ∀ s ∈ statuses, s = .passed then .passed
    else if .failed ∈ statuses then .failed
    else .partiallyAudited := by
  cases statuses with
  | nil => rfl
  | cons s rest =>
    rw [combine, if_neg (by simp)]
    simp only [List.all_eq_true, beq_iff_eq, List.any_beq', List.contains_iff_mem]

theorem combine_any_eq (statuses : List CriterionStatus) : combine .any statuses =
    if statuses = [] ∨ .passed ∈ statuses then .passed
    else if ∀ s ∈ statuses, s = .failed then .failed
    else .partiallyAudited := by
  cases statuses with
  | nil => rfl
  | cons s rest =>
    rw [combine, if_neg (by simp)]
    simp only [List.all_eq_true, beq_iff_eq, List.any_beq', List.contains_iff_mem, reduceCtorEq,
      false_or]

theorem judges_combine (logic : Logic) (statuses : List CriterionStatus) :
    logic.Judges statuses (logic.combine statuses) := by
  cases logic with
  | all =>
    rw [combine_all_eq]
    split
    · next hpassed => exact .allPassed hpassed
    · next hpassed =>
      split
      · next hfailed => exact .someFailed hfailed
      · next hfailed => exact .allOpen (by simpa using hpassed) hfailed
  | any =>
    rw [combine_any_eq]
    split
    · next hpassed =>
      rcases hpassed with hnil | hpassed
      · exact .noCriteria hnil
      · exact .somePassed hpassed
    · next hpassed =>
      obtain ⟨hne, hnone⟩ := not_or.mp hpassed
      split
      · next hfailed => exact .allFailed hne hfailed
      · next hfailed => exact .anyOpen hnone (by simpa using hfailed)

theorem combine_eq_iff {logic : Logic} : logic.combine statuses = s ↔ logic.Judges statuses s := by
  constructor
  · rintro rfl
    exact judges_combine logic statuses
  · intro h
    cases h with
    | allPassed hall => rw [combine_all_eq, if_pos hall]
    | someFailed hfailed =>
      have hall : ¬∀ s ∈ statuses, s = .passed := fun hall => nomatch hall _ hfailed
      rw [combine_all_eq, if_neg hall, if_pos hfailed]
    | allOpen hopen hnone =>
      have hall : ¬∀ s ∈ statuses, s = .passed := by simpa using hopen
      rw [combine_all_eq, if_neg hall, if_neg hnone]
    | noCriteria hnil => rw [combine_any_eq, if_pos (.inl hnil)]
    | somePassed hpassed => rw [combine_any_eq, if_pos (.inr hpassed)]
    | allFailed hne hall =>
      have hnone : .passed ∉ statuses := fun hpassed => nomatch hall _ hpassed
      rw [combine_any_eq, if_neg (not_or.mpr ⟨hne, hnone⟩), if_pos hall]
    | anyOpen hnone hopen =>
      obtain ⟨t, ht, -⟩ := id hopen
      have hall : ¬∀ s ∈ statuses, s = .failed := by simpa using hopen
      rw [combine_any_eq, if_neg (not_or.mpr ⟨List.ne_nil_of_mem ht, hnone⟩), if_neg hall]

/-- Criteria pass together if there are none, or if one of them does and, where the logic asks for
all, the others do too. -/
theorem combine_eq_passed_iff {α : Type} {as : List α} (logic : Logic)
    (status : α → CriterionStatus) : logic.combine (as.map status) = .passed ↔
      as = [] ∨ (∃ a ∈ as, status a = .passed) ∧ (logic = .all → ∀ a ∈ as, status a = .passed) := by
  rw [combine_eq_iff]
  constructor
  · intro h
    cases h with
    | allPassed hall =>
      rw [List.forall_mem_map] at hall
      by_cases hnil : as = []
      · exact .inl hnil
      · obtain ⟨a, ha⟩ := List.exists_mem_of_ne_nil as hnil
        exact .inr ⟨⟨a, ha, hall a ha⟩, fun _ => hall⟩
    | noCriteria hnil => exact .inl (List.map_eq_nil_iff.mp hnil)
    | somePassed hmem => exact .inr ⟨List.mem_map.mp hmem, nofun⟩
  · intro h
    cases logic with
    | all =>
      refine .allPassed (List.forall_mem_map.mpr ?_)
      rcases h with rfl | ⟨-, hall⟩
      · exact List.forall_mem_nil _
      · exact hall rfl
    | any =>
      rcases h with rfl | ⟨hsome, -⟩
      · exact .noCriteria rfl
      · exact .somePassed (List.mem_map.mpr hsome)

end Logic

/-! ### Checks and requirements -/

/-- Where a relation is a function, relating lists member by member is mapping them. -/
theorem forall₂_iff_map_eq {α β : Type} {R : α → β → Prop} {f : α → β} {as : List α} {bs : List β}
    (h : ∀ a b, f a = b ↔ R a b) : List.Forall₂ R as bs ↔ as.map f = bs := by
  have hR : R = fun a b => f a = b := by
    funext a b
    exact propext (h a b).symm
  rw [hR, ← List.forall₂_map_left_iff, List.forall₂_eq_eq_eq]

theorem Check.status_eq_iff {c : Check} {y : Option CheckResult} {s : Status} :
    c.status y = s ↔ c.HasStatus y s := by
  have hcriteria : ∀ (y : CheckResult) (statuses : List CriterionStatus),
      List.Forall₂ (fun p t => y.Gives p.id t) c.criteria statuses ↔
        (c.criteria.map fun p => y.criterionStatus p.id) = statuses := fun y statuses =>
    forall₂_iff_map_eq fun _ _ => CheckResult.criterionStatus_eq_iff
  constructor
  · rintro rfl
    cases y with
    | none => exact .missing
    | some y =>
      cases hmark : y.mark with
      | notAudited => simpa only [status, hmark] using .notAudited hmark
      | notApplicable => simpa only [status, hmark] using .notApplicable hmark
      | passed =>
        simpa only [status, hmark] using
          .judged hmark ((hcriteria y _).mpr rfl) (c.logic.judges_combine _)
  · intro h
    cases h with
    | missing => rfl
    | notAudited hmark => simp only [status, hmark]
    | notApplicable hmark => simp only [status, hmark]
    | @judged y statuses _ hmark hstatuses hjudged =>
      simp only [status, hmark]
      rw [(hcriteria y statuses).mp hstatuses]
      exact Logic.combine_eq_iff.mpr hjudged

theorem Status.rollUp_eq_iff {statuses : List Status} {s : Status} :
    rollUp statuses = s ↔ RollsUp statuses s := by
  constructor
  · rintro rfl
    rw [rollUp_eq]
    split
    · next hnotAudited => exact .notAudited hnotAudited
    · next hnotAudited =>
      have hsome : ∃ s ∈ statuses, s ≠ .notAudited := by simpa using hnotAudited
      obtain ⟨t, ht, -⟩ := id hsome
      split
      · next hfailed => exact .failed hfailed
      · next hfailed =>
        split
        · next hpassed => exact .passed (List.ne_nil_of_mem ht) hpassed
        · next hpassed => exact .partiallyAudited hsome hfailed (by simpa using hpassed)
  · intro h
    cases h with
    | notAudited hall => exact rollUp_eq_notAudited_iff.mpr hall
    | failed hfailed => exact rollUp_eq_failed_iff.mpr hfailed
    | passed hne hall => exact rollUp_eq_passed_iff.mpr ⟨hne, hall⟩
    | partiallyAudited hsome hfailed hopen =>
      have hnotAudited : ¬∀ s ∈ statuses, s = .notAudited := by simpa using hsome
      have hpassed : ¬∀ s ∈ statuses, s = .passed := by simpa using hopen
      rw [rollUp_eq, if_neg hnotAudited, if_neg hfailed, if_neg hpassed]

/-- A requirement without checks needs no rule of its own. -/
theorem Requirement.status_eq_rollUp (r : Requirement) (x : Option RequirementResult) :
    r.status x = .rollUp (r.checks.map fun c => c.status (x.bind fun y => y.checks.get? c.id)) := by
  rw [status]
  split
  · next hempty =>
    rw [List.isEmpty_iff.mp hempty]
    rfl
  · rfl

/-- Checks and requirements have the statuses that the rules give them, and no others. -/
theorem Requirement.status_by_rules :
    (∀ (c : Check) (y : Option CheckResult) (s : Status), c.status y = s ↔ c.HasStatus y s) ∧
    ∀ (r : Requirement) (x : Option RequirementResult) (s : Status),
      r.status x = s ↔ r.HasStatus x s := by
  refine ⟨fun c y s => Check.status_eq_iff, fun r x s => ?_⟩
  have hchecks : ∀ statuses : List Status, List.Forall₂
      (fun c t => Check.HasStatus c (x.bind fun y => y.checks.get? c.id) t) r.checks statuses ↔
        (r.checks.map fun c => c.status (x.bind fun y => y.checks.get? c.id)) = statuses :=
    fun statuses => forall₂_iff_map_eq fun _ _ => Check.status_eq_iff
  rw [status_eq_rollUp, Status.rollUp_eq_iff]
  constructor
  · exact fun hrolled => .rolledUp ((hchecks _).mpr rfl) hrolled
  · rintro ⟨hstatuses, hrolled⟩
    rwa [(hchecks _).mp hstatuses]

end Conformance
