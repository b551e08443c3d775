import Conformance.Proofs.LifecycleRefinement
import Conformance.Proofs.Resolution

/-! Writing back what is stored already. A write computes the status from what it does not itself
write, so what it has stored is stored again unchanged, at any later time. A new audit is a record of
its findings followed by an acknowledgement, and no third way of writing. -/

namespace Conformance

/-! ### Results that a write leaves as they are -/

section FixedPoints

variable {r : Requirement} {x : RequirementResult} {now : Timestamp} {checkId criterionId : String}

theorem Requirement.applyUpdate_eq_self_iff :
    r.applyUpdate (some x) x now = x ↔ x.status = r.status (some x) := by
  rw [applyUpdate_some]
  constructor
  · intro h
    exact (congrArg RequirementResult.status h).symm
  · intro hstatus
    rw [if_pos hstatus.symm, ← hstatus]

theorem RequirementResult.clearStuck_eq_self_iff : x.clearStuck checkId criterionId = x ↔
    ∀ z ∈ x.criterion? checkId criterionId, z.stuckText = "" := by
  constructor
  · intro h z hz
    have hcleared := x.criterion?_clearStuck checkId criterionId checkId criterionId
    rw [h, hz, Option.map_some, if_pos ⟨rfl, rfl⟩] at hcleared
    exact congrArg CriterionResult.stuckText (Option.some.inj hcleared)
  · intro h
    have hcriteria : ∀ y, x.checks.get? checkId = some y →
        (y.criteria.modify criterionId fun p => { p with stuckText := "" }) = y.criteria := by
      intro y hy
      refine KeyedMap.modify_eq_self fun z hz => ?_
      have hz' : x.criterion? checkId criterionId = some z := by
        rw [criterion?, hy, Option.bind_some, hz]
      rw [← h z hz']
    have hchecks : (x.clearStuck checkId criterionId).checks = x.checks := by
      rw [checks_clearStuck]
      refine KeyedMap.modify_eq_self fun y hy => ?_
      rw [hcriteria y hy]
    exact congrArg (fun checks => { x with checks }) hchecks

/-- Solving a problem changes nothing exactly if the status is right and nobody calls for help. -/
theorem Requirement.markSolved_eq_self_iff : r.markSolved x checkId criterionId now = x ↔
    x.status = r.status (some x) ∧ ∀ z ∈ x.criterion? checkId criterionId, z.stuckText = "" := by
  rw [← RequirementResult.clearStuck_eq_self_iff, markSolved_eq]
  constructor
  · intro h
    have hchecks := congrArg RequirementResult.checks h
    exact ⟨(congrArg RequirementResult.status h).symm,
      congrArg (fun checks => { x with checks }) hchecks⟩
  · rintro ⟨hstatus, hclear⟩
    rw [hclear, if_pos hstatus.symm, ← hstatus]

end FixedPoints

/-! ### Writing twice -/

/-- The second result is the first with the call for help at a criterion cleared. The status and its
time are left open. -/
structure RequirementResult.ClearedAt (checkId criterionId : String) (x y : RequirementResult) :
    Prop where
  needsReview : y.needsReview = x.needsReview
  observation : y.observation = x.observation
  commentToAuditor : y.commentToAuditor = x.commentToAuditor
  commentToActor : y.commentToActor = x.commentToActor
  mark : ∀ c, (y.checks.get? c).map (·.mark) = (x.checks.get? c).map (·.mark)
  criterion : ∀ c p, y.criterion? c p = (x.criterion? c p).map fun z =>
    if c = checkId ∧ p = criterionId then { z with stuckText := "" } else z

namespace Requirement

theorem clearedAt_markSolved (r : Requirement) (x : RequirementResult)
    (checkId criterionId : String) (now : Timestamp) :
    x.ClearedAt checkId criterionId (r.markSolved x checkId criterionId now) := by
  rw [markSolved_eq]
  constructor
  case needsReview | observation | commentToAuditor | commentToActor => rfl
  case mark =>
    intro c
    rw [RequirementResult.checks_clearStuck, KeyedMap.get?_modify, Option.map_map]
    congr 1
    funext y
    by_cases hc : c = checkId <;> simp [hc]
  case criterion => exact x.criterion?_clearStuck checkId criterionId

/-- What a write has stored stays the same when it is written back, and what solving a problem has
stored when the problem is solved again, whatever the times. Solving clears one call for help, if
there is one, and nothing else; the status is the one that was right before. -/
theorem writing_back_idempotent (r : Requirement) (now later : Timestamp) :
    (∀ previous updated,
      r.applyUpdate (some (r.applyUpdate previous updated now))
        (r.applyUpdate previous updated now) later = r.applyUpdate previous updated now) ∧
    (∀ x checkId criterionId,
      r.markSolved (r.markSolved x checkId criterionId now) checkId criterionId later =
        r.markSolved x checkId criterionId now ∧
      x.ClearedAt checkId criterionId (r.markSolved x checkId criterionId now) ∧
      (r.markSolved x checkId criterionId now).status = r.status (some x)) := by
  refine ⟨fun previous updated => ?_, fun x checkId criterionId => ⟨?_, ?_, ?_⟩⟩
  · exact applyUpdate_eq_self_iff.mpr (status_applyUpdate previous updated now)
  · refine markSolved_eq_self_iff.mpr ⟨status_applyUpdate _ _ now, fun z hz => ?_⟩
    rw [(clearedAt_markSolved r x checkId criterionId now).criterion] at hz
    obtain ⟨z', -, rfl⟩ := Option.map_eq_some_iff.mp hz
    rw [if_pos ⟨rfl, rfl⟩]
  · exact clearedAt_markSolved r x checkId criterionId now
  · rw [markSolved_eq]

/-! ### A new audit -/

theorem acknowledge_eq (r : Requirement) (x : RequirementResult) : r.acknowledge x =
    if x.needsReview then .ok { x with status := r.status (some x), needsReview := false }
    else .error (.invalidTransition x.lifecycle .acknowledged) := by
  rw [acknowledge, Lifecycle.transition, x.needsReview_lifecycle]
  cases x.needsReview with
  | false => rfl
  | true =>
    rw [if_pos rfl, if_pos rfl, Except.map, RequirementResult.setLifecycle,
      Lifecycle.needsReview_derived]
    rfl

theorem stamped_setLifecycle (x : RequirementResult) (state : Lifecycle)
    (previous : Option RequirementResult) (now : Timestamp) :
    stamped (x.setLifecycle state) previous now = (stamped x previous now).setLifecycle state := by
  rw [stamped_eq, stamped_eq]
  rfl

theorem reaudit_eq (r : Requirement) (previous updated : RequirementResult) (now : Timestamp) :
    r.reaudit previous updated now =
      .ok { r.applyUpdate (some previous) updated now with needsReview := false } := by
  rw [reaudit, Lifecycle.transition, Except.map, stamped_setLifecycle, applyUpdate,
    stamped_setLifecycle, RequirementResult.setLifecycle, Lifecycle.needsReview_derived]
  rfl

/-- A new audit always succeeds. It stores what a record of its findings stores and, where a review
was pending, what accepting these findings stores then. -/
theorem reaudit_agrees (r : Requirement) (previous updated : RequirementResult) (now : Timestamp) :
    ∃ x, r.reaudit previous updated now = .ok x ∧
      if previous.needsReview then
        r.acknowledge (r.applyUpdate (some previous) updated now) = .ok x
      else x = r.applyUpdate (some previous) updated now := by
  have hflag : (r.applyUpdate (some previous) updated now).needsReview = previous.needsReview :=
    needsReview_applyUpdate (some previous) updated now
  refine ⟨_, r.reaudit_eq previous updated now, ?_⟩
  cases hpending : previous.needsReview with
  | false =>
    rw [hpending] at hflag
    rw [if_neg Bool.false_ne_true, ← hflag]
  | true =>
    rw [hpending] at hflag
    rw [if_pos rfl, acknowledge_eq, if_pos hflag, ← status_applyUpdate]

end Requirement

/-! ### Runs without new audits -/

/-- Writes that do the same as one write, without a new audit among them. -/
def ResultWrite.elementary : ResultWrite → List ResultWrite
  | reaudit r findings now => [record r findings now, acknowledge r]
  | w => [w]

namespace RequirementResult

theorem foldl_elementary (x : RequirementResult) (w : ResultWrite) :
    w.elementary.foldl advance x = x.advance w := by
  cases w with
  | reaudit r findings now =>
    show (r.applyUpdate (some x) findings now).advance (.acknowledge r) = _
    rw [advance, advance, ResultWrite.perform, ResultWrite.perform, r.acknowledge_eq, r.reaudit_eq]
    cases hpending : (r.applyUpdate (some x) findings now).needsReview with
    | true =>
      rw [if_pos rfl, ← r.status_applyUpdate]
    | false =>
      -- The acknowledgement is refused, and the record has no flag to clear.
      rw [if_neg Bool.false_ne_true, ← hpending]
  | _ => rfl

/-- New audits can be replaced in any run of writes. -/
theorem foldl_flatMap_elementary (x : RequirementResult) (ws : List ResultWrite) :
    (ws.flatMap ResultWrite.elementary).foldl advance x = ws.foldl advance x := by
  induction ws generalizing x with
  | nil => rfl
  | cons w rest ih => rw [List.flatMap_cons, List.foldl_append, foldl_elementary, ih, List.foldl_cons]

end RequirementResult

end Conformance
