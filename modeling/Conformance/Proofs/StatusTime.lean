import Conformance.Proofs.ReviewFlags
import Conformance.Proofs.TimestampText

/-! The time of the last status change. A write stores the current time where it changes the status
and leaves the time alone where it does not. The one time that a caller can choose is that of the
first write of a requirement, if that write computes no status: there is no previous time to keep,
and the one that the record brings along stays. -/

namespace Conformance

/-- The status that a write finds; a missing result counts as not audited. -/
def statusBefore (previous : Option RequirementResult) : Status :=
  (previous.map (·.status)).getD .notAudited

/-- The time that belongs to a status after a write: that of the write if the status is a new one,
else the time before. -/
def statusTime (previous : Option RequirementResult) (status : Status) (now : Timestamp) :
    Option Timestamp :=
  if status ≠ statusBefore previous then some now else previous.bind (·.lastStatusUpdate)

namespace Requirement

variable {r : Requirement} {previous : Option RequirementResult} {updated : RequirementResult}
  {now : Timestamp}

/-- What a write leaves, in full. -/
theorem applyUpdate_eq : r.applyUpdate previous updated now =
    { updated with
      status := r.status (some updated)
      needsReview := previous.any (·.needsReview)
      lastStatusUpdate :=
        if previous.isNone ∧ r.status (some updated) = .notAudited then updated.lastStatusUpdate
        else statusTime previous (r.status (some updated)) now } := by
  simp only [applyUpdate, stamped_eq, recomputed, RequirementResult.setLifecycle,
    RequirementResult.needsReview_onRecorded, statusTime, statusBefore]
  cases previous with
  | none => by_cases hsame : r.status (some updated) = .notAudited <;> simp [hsame]
  | some p => by_cases hsame : r.status (some updated) = p.status <;> simp [hsame]

theorem applyUpdate_some (r : Requirement) (x updated : RequirementResult) (now : Timestamp) :
    r.applyUpdate (some x) updated now =
      { updated with
        status := r.status (some updated)
        needsReview := x.needsReview
        lastStatusUpdate :=
          if r.status (some updated) = x.status then x.lastStatusUpdate else some now } := by
  rw [applyUpdate_eq]
  by_cases hsame : r.status (some updated) = x.status <;> simp [hsame, statusTime, statusBefore]

/-- The stored time is the one that belongs to the stored status, except that a write which finds no
result and computes no status keeps the time of the record. The status and the flag of the record
count for nothing. -/
theorem lastStatusUpdate_applyUpdate (r : Requirement) (previous : Option RequirementResult)
    (updated : RequirementResult) (now : Timestamp) :
    ((r.applyUpdate previous updated now).lastStatusUpdate =
        statusTime previous (r.applyUpdate previous updated now).status now ↔
      previous.isSome ∨ (r.applyUpdate previous updated now).status ≠ .notAudited ∨
        updated.lastStatusUpdate = none) ∧
    ∀ status flag, r.applyUpdate previous { updated with status, needsReview := flag } now =
      r.applyUpdate previous updated now := by
  refine ⟨?_, fun status flag => ?_⟩
  · rw [applyUpdate_eq]
    cases previous with
    | none =>
      by_cases hfresh : r.status (some updated) = .notAudited <;>
        simp [hfresh, statusTime, statusBefore]
    | some p => simp
  · rw [applyUpdate_eq, applyUpdate_eq]
    rfl

/-! ### Runs of writes -/

variable {time : Timestamp}

theorem time_of_applyUpdate (h : (r.applyUpdate previous updated now).lastStatusUpdate = some time) :
    previous.bind (·.lastStatusUpdate) = some time ∨ time = now ∨
      previous = none ∧ updated.lastStatusUpdate = some time := by
  simp only [applyUpdate_eq, statusTime] at h
  split at h
  · next hfirst => exact .inr (.inr ⟨Option.isNone_iff_eq_none.mp hfirst.1, h⟩)
  · split at h
    · exact .inr (.inl (Option.some.inj h).symm)
    · exact .inl h

/-- The result of a requirement after writes at their times. -/
def afterWrites (r : Requirement) (previous : Option RequirementResult)
    (writes : List (RequirementResult × Timestamp)) : Option RequirementResult :=
  writes.foldl (fun previous w => some (r.applyUpdate previous w.1 w.2)) previous

/-- The stored time is that of a write or the one before the run, or else the record of the very
first write of the requirement brought it along. -/
theorem time_of_afterWrites {writes : List (RequirementResult × Timestamp)}
    (h : (r.afterWrites previous writes).bind (·.lastStatusUpdate) = some time) :
    previous.bind (·.lastStatusUpdate) = some time ∨ (∃ w ∈ writes, time = w.2) ∨
      previous = none ∧ ∃ w, writes.head? = some w ∧ w.1.lastStatusUpdate = some time := by
  induction writes generalizing previous with
  | nil => exact .inl h
  | cons w rest ih =>
    rcases ih h with hstored | ⟨w', hw', htime⟩ | ⟨hnone, -⟩
    · rcases time_of_applyUpdate hstored with hbefore | rfl | ⟨hnone, hcarried⟩
      · exact .inl hbefore
      · exact .inr (.inl ⟨w, List.mem_cons_self, rfl⟩)
      · exact .inr (.inr ⟨hnone, w, rfl, hcarried⟩)
    · exact .inr (.inl ⟨w', List.mem_cons_of_mem w hw', htime⟩)
    · cases hnone

end Requirement

namespace Specimen

def unchecked : Requirement := { key := "r", checks := [{ id := "c" }] }

/-- Nothing is recorded and no status changes, but the time that the record brings along is stored,
and makes the result count as recorded. -/
theorem carried_time_stays :
    (unchecked.applyUpdate none { lastStatusUpdate := some newYear } noon).status = .notAudited ∧
    (unchecked.applyUpdate none { lastStatusUpdate := some newYear } noon).lastStatusUpdate =
      some newYear ∧
    statusTime none .notAudited noon = none ∧
    (unchecked.applyUpdate none { lastStatusUpdate := some newYear } noon).hasRecordedData = true ∧
    (unchecked.applyUpdate none {} noon).hasRecordedData = false := by
  decide

end Specimen

end Conformance
