import Conformance.Proofs.ReviewFlags
import Conformance.Proofs.StatusConsistency

/-! A stored result refines the life cycle. Of the state only the review flag is stored; the rest is
derived again from the status whenever it is asked for. Each write stores a status and a flag from
which exactly the state is derived that the life cycle reaches on its event, so nothing is lost over
any run of writes. -/

namespace Conformance

/-- A write on one stored result, with the definition that its caller hands in. -/
inductive ResultWrite
  | record (r : Requirement) (findings : RequirementResult) (now : Timestamp)
  | acknowledge (r : Requirement)
  | reaudit (r : Requirement) (findings : RequirementResult) (now : Timestamp)
  | solve (r : Requirement) (checkId criterionId : String) (now : Timestamp)
  | flag

namespace ResultWrite

def event : ResultWrite → LifecycleEvent
  | record _ _ _ => .recorded
  | acknowledge _ => .acknowledged
  | reaudit _ _ _ => .reaudited
  | solve _ _ _ _ => .recorded
  | flag => .ruleFileChanged

/-- What a write stores in place of `x`. -/
def perform (x : RequirementResult) : ResultWrite → Except LifecycleError RequirementResult
  | record r findings now => .ok (r.applyUpdate (some x) findings now)
  | acknowledge r => r.acknowledge x
  | reaudit r findings now => r.reaudit x findings now
  | solve r checkId criterionId now => .ok (r.markSolved x checkId criterionId now)
  | flag => (x.lifecycle.transition .ruleFileChanged x.status).map x.setLifecycle

end ResultWrite

/-- The state after an event with the status computed after it. A rejected event leaves the state. -/
def Lifecycle.advance (state : Lifecycle) (input : LifecycleEvent × Status) : Lifecycle :=
  match state.transition input.1 input.2 with
  | .ok next => next
  | .error _ => state

namespace RequirementResult

/-- The record after a write. A refused write leaves the record. -/
def advance (x : RequirementResult) (w : ResultWrite) : RequirementResult :=
  match w.perform x with
  | .ok y => y
  | .error _ => x

/-- The events of writes one after another, each with the status that is stored after it. -/
def inputs (x : RequirementResult) : List ResultWrite → List (LifecycleEvent × Status)
  | [] => []
  | w :: rest => (w.event, (x.advance w).status) :: inputs (x.advance w) rest

end RequirementResult

/-! ### One event -/

namespace Lifecycle

variable {state next : Lifecycle} {event : LifecycleEvent} {computed : Status}

/-- The state after an event can be derived again from the status and the review flag. -/
theorem ofParts_of_transition (h : state.transition event computed = .ok next) :
    ofParts computed next.needsReview = next := by
  have hderived : ofParts computed (derived computed).needsReview = derived computed := by
    rw [needsReview_derived]
    rfl
  cases event with
  | ruleFileChanged =>
    obtain rfl := Except.ok.inj h
    rfl
  | recorded =>
    obtain rfl := Except.ok.inj h
    cases state with
    | stale => rfl
    | _ => exact hderived
  | acknowledged =>
    rw [transition] at h
    split at h
    · obtain rfl := Except.ok.inj h
      exact hderived
    · cases h
  | reaudited =>
    obtain rfl := Except.ok.inj h
    exact hderived

/-- Only an acknowledgement is rejected, and only where no review is pending. -/
theorem transition_eq_error_iff {e : LifecycleError} : state.transition event computed = .error e ↔
    event = .acknowledged ∧ state.needsReview = false ∧ e = .invalidTransition state event := by
  cases event with
  | acknowledged =>
    rw [transition]
    cases state.needsReview <;> simp [eq_comm]
  | _ => simp [transition]

end Lifecycle

/-! ### One write -/

namespace ResultWrite

variable {x y : RequirementResult} {w : ResultWrite}

/-- Every write takes the life cycle one step on, with the status that it stores, and stores the
review flag of the state after it. -/
theorem exists_transition (x : RequirementResult) (w : ResultWrite) : ∃ computed store,
    w.perform x = (x.lifecycle.transition w.event computed).map store ∧
      ∀ next, (store next).status = computed ∧ (store next).needsReview = next.needsReview := by
  -- Three of the writes put a time on the result, which leaves status and flag.
  have hstamped : ∀ (y : RequirementResult) now (next : Lifecycle),
      (Requirement.stamped (y.setLifecycle next) (some x) now).status = y.status ∧
        (Requirement.stamped (y.setLifecycle next) (some x) now).needsReview =
          next.needsReview := fun y now next =>
    ⟨(Requirement.stamped_parts _ _ now).1, Requirement.needsReview_stamped _ _ now⟩
  cases w with
  | record r findings now => exact ⟨_, _, rfl, hstamped (r.recomputed findings) now⟩
  | acknowledge r => exact ⟨_, _, rfl, fun _ => ⟨rfl, rfl⟩⟩
  | reaudit r findings now => exact ⟨_, _, rfl, hstamped (r.recomputed findings) now⟩
  | solve r checkId criterionId now =>
    exact ⟨_, _, rfl, hstamped (r.recomputed (x.clearStuck checkId criterionId)) now⟩
  | flag => exact ⟨_, _, rfl, fun _ => ⟨rfl, rfl⟩⟩

theorem transition_of_perform (h : w.perform x = .ok y) :
    x.lifecycle.transition w.event y.status = .ok y.lifecycle := by
  obtain ⟨computed, store, hperform, hstore⟩ := exists_transition x w
  rw [hperform] at h
  cases hnext : x.lifecycle.transition w.event computed with
  | error e =>
    rw [hnext] at h
    cases h
  | ok next =>
    rw [hnext] at h
    obtain rfl := Except.ok.inj h
    obtain ⟨hstatus, hflag⟩ := hstore next
    have hderived : (store next).lifecycle = next := by
      rw [RequirementResult.lifecycle, hstatus, hflag, Lifecycle.ofParts_of_transition hnext]
    rw [hstatus, hderived, hnext]

/-- A write is refused exactly where the life cycle rejects its event, whatever the status. -/
theorem perform_eq_error_iff {e : LifecycleError} (computed : Status) :
    w.perform x = .error e ↔ x.lifecycle.transition w.event computed = .error e := by
  obtain ⟨own, store, hperform, -⟩ := exists_transition x w
  have hmap : (x.lifecycle.transition w.event own).map store = .error e ↔
      x.lifecycle.transition w.event own = .error e := by
    cases x.lifecycle.transition w.event own <;> simp [Except.map]
  rw [hperform, hmap, Lifecycle.transition_eq_error_iff, Lifecycle.transition_eq_error_iff]

theorem exists_perform_or_acknowledge (x : RequirementResult) (w : ResultWrite) :
    (∃ y, w.perform x = .ok y) ∨ ∃ r, w = acknowledge r := by
  cases hperform : w.perform x with
  | ok y => exact .inl ⟨y, rfl⟩
  | error e =>
    have hevent := (Lifecycle.transition_eq_error_iff.mp
      ((perform_eq_error_iff x.status).mp hperform)).1
    cases w with
    | acknowledge r => exact .inr ⟨r, rfl⟩
    | _ => cases hevent

end ResultWrite

/-! ### Whole runs -/

namespace RequirementResult

theorem lifecycle_advance (x : RequirementResult) (w : ResultWrite) :
    x.lifecycle.advance (w.event, (x.advance w).status) = (x.advance w).lifecycle := by
  rw [advance, Lifecycle.advance]
  cases hperform : w.perform x with
  | ok y => rw [ResultWrite.transition_of_perform hperform]
  | error e => rw [(ResultWrite.perform_eq_error_iff x.status).mp hperform]

theorem lifecycle_states (x : RequirementResult) (ws : List ResultWrite) :
    (x.inputs ws).scanl Lifecycle.advance x.lifecycle = (ws.scanl advance x).map (·.lifecycle) := by
  induction ws generalizing x with
  | nil => rfl
  | cons w rest ih =>
    rw [inputs, List.scanl_cons, List.scanl_cons, List.map_cons, lifecycle_advance, ih]

theorem lifecycle_foldl (x : RequirementResult) (ws : List ResultWrite) :
    (x.inputs ws).foldl Lifecycle.advance x.lifecycle = (ws.foldl advance x).lifecycle := by
  have hlast := congrArg List.getLast? (lifecycle_states x ws)
  rw [List.getLast?_scanl, List.getLast?_map, List.getLast?_scanl] at hlast
  exact Option.some.inj hlast

/-- Through any writes the life cycle, fed with their events and the statuses that they store, is at
every step in the state that is derived from the stored record. Wherever a run has led, a further
write is refused with just the error with which the life cycle rejects its event; that never happens
but to an acknowledgement. What an update stores for a flagged result is one of the writes. -/
theorem refines_lifecycle (x : RequirementResult) (ws : List ResultWrite) :
    let current := ws.foldl advance x
    let state := (x.inputs ws).foldl Lifecycle.advance x.lifecycle
    (x.inputs ws).scanl Lifecycle.advance x.lifecycle = (ws.scanl advance x).map (·.lifecycle) ∧
      (∀ (w : ResultWrite) y, w.perform current = .ok y →
        state.transition w.event y.status = .ok y.lifecycle) ∧
      (∀ (w : ResultWrite) e computed, w.perform current = .error e ↔
        state.transition w.event computed = .error e) ∧
      (∀ w : ResultWrite, (∃ y, w.perform current = .ok y) ∨ ∃ r, w = .acknowledge r) ∧
      Disposition.flag.apply current = (ResultWrite.flag.perform current).toOption := by
  intro current state
  have hstate : state = current.lifecycle := lifecycle_foldl x ws
  rw [hstate]
  exact ⟨lifecycle_states x ws, fun w y => ResultWrite.transition_of_perform,
    fun w e computed => ResultWrite.perform_eq_error_iff computed,
    ResultWrite.exists_perform_or_acknowledge current, rfl⟩

/-- A flagged result stays stale while findings are recorded, until it is acknowledged. -/
example : ([.flag, .record Specimen.gone {} Specimen.noon, .acknowledge Specimen.gone,
    .acknowledge Specimen.gone].scanl advance {}).map (·.lifecycle) =
      [.fresh, .stale, .stale, .fresh, .fresh] := by
  decide

end RequirementResult

end Conformance
