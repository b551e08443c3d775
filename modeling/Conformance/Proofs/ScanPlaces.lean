import Conformance.Proofs.ProblemScan
import Mathlib.Tactic.Choose

/-! Where the scan for problems looks. A place is given by four indices, of a sample, of a
requirement in the rule file, of a check and of a criterion, and places are in lexicographic order.
The scan finds one problem for each place where an auditor is stuck, in this order; its configuration
only leaves out the problems that are not failed, and has no influence on the warnings. -/

namespace Conformance

/-! ### Listing what is found -/

/-- The list holds what is found, each place once, with the places in the given order. -/
def Enumerates {ι α : Type} (before : ι → ι → Prop) (found : ι → Option α) (as : List α) : Prop :=
  ∃ located : List (ι × α), located.map Prod.snd = as ∧
    located.Pairwise (fun x y => before x.1 y.1) ∧ ∀ i a, (i, a) ∈ located ↔ found i = some a

namespace Enumerates

variable {ι κ α β : Type} {before : ι → ι → Prop} {before' : κ → κ → Prop} {found : ι → Option α}
  {as : List α}

theorem getElem? (as : List α) : Enumerates (· < ·) (fun i : Nat => as[i]?) as := by
  refine ⟨as.zipIdx.map Prod.swap, ?_, ?_, fun i a => ?_⟩
  · rw [List.map_map]
    exact List.zipIdx_map_fst 0 as
  · have hindices : (as.zipIdx.map Prod.snd).Pairwise (· < ·) := by
      rw [List.zipIdx_map_snd]
      exact List.pairwise_lt_range'
    rw [List.pairwise_map] at hindices ⊢
    exact hindices
  · simp [List.mem_zipIdx_iff_getElem?]

theorem filterMap (h : Enumerates before found as) (g : α → Option β) :
    Enumerates before (fun i => (found i).bind g) (as.filterMap g) := by
  obtain ⟨located, rfl, hordered, hmem⟩ := h
  refine ⟨located.filterMap fun x => (g x.2).map (x.1, ·), ?_, ?_, fun i b => ?_⟩
  · rw [List.map_filterMap, List.filterMap_map]
    simp [Function.comp_def]
  · refine hordered.filterMap _ fun x y hxy x' hx y' hy => ?_
    obtain ⟨_, -, rfl⟩ := Option.map_eq_some_iff.mp hx
    obtain ⟨_, -, rfl⟩ := Option.map_eq_some_iff.mp hy
    exact hxy
  · simp only [List.mem_filterMap, Option.map_eq_some_iff, Prod.exists, Prod.mk.injEq,
      Option.bind_eq_some_iff, ← hmem]
    constructor
    · rintro ⟨_, a, ha, _, hb, rfl, rfl⟩
      exact ⟨a, ha, hb⟩
    · rintro ⟨a, ha, hb⟩
      exact ⟨i, a, ha, b, hb, rfl, rfl⟩

theorem flatMap (h : Enumerates before found as) {inner : α → κ → Option β} {g : α → List β}
    (hinner : ∀ a, Enumerates before' (inner a) (g a)) :
    Enumerates (Prod.Lex before before') (fun p => (found p.1).bind (inner · p.2))
      (as.flatMap g) := by
  obtain ⟨located, rfl, hordered, hmem⟩ := h
  choose within hwithin horder hmem' using hinner
  refine ⟨located.flatMap fun x => (within x.2).map fun y => ((x.1, y.1), y.2), ?_, ?_,
    fun p b => ?_⟩
  · rw [List.map_flatMap, List.flatMap_map]
    simp only [List.map_map, Function.comp_def, ← hwithin]
  · rw [List.pairwise_flatMap]
    constructor
    · intro x _
      rw [List.pairwise_map]
      refine (horder x.2).imp ?_
      intro y z hyz
      exact Prod.Lex.right _ hyz
    · refine hordered.imp fun hxy p hp q hq => ?_
      obtain ⟨_, -, rfl⟩ := List.mem_map.mp hp
      obtain ⟨_, -, rfl⟩ := List.mem_map.mp hq
      exact Prod.Lex.left _ _ hxy
  · obtain ⟨i, j⟩ := p
    simp only [List.mem_flatMap, List.mem_map, Prod.exists, Prod.mk.injEq, hmem, hmem',
      Option.bind_eq_some_iff]
    constructor
    · rintro ⟨_, a, ha, _, _, hb, ⟨rfl, rfl⟩, rfl⟩
      exact ⟨a, ha, hb⟩
    · rintro ⟨a, ha, hb⟩
      exact ⟨i, a, ha, j, b, hb, ⟨rfl, rfl⟩, rfl⟩

theorem filter (h : Enumerates before found as) (keep : α → Bool) :
    Enumerates before (fun i => (found i).filter keep) (as.filter keep) := by
  simpa only [List.filterMap_eq_filter, Option.bind_guard] using h.filterMap (Option.guard keep)

end Enumerates

/-! ### Places -/

/-- The indices of a sample, of a requirement in the rule file, of a check and of a criterion. -/
abbrev Place : Type := Nat × Nat × Nat × Nat

def Place.Before : Place → Place → Prop :=
  Prod.Lex (· < ·) (Prod.Lex (· < ·) (Prod.Lex (· < ·) (· < ·)))

/-- The position at a place, if the requirement is relevant to the sample. -/
def Audit.positionAt? (a : Audit) (place : Place) : Option Position := do
  let s ← a.samples[place.1]?
  let r ← a.ruleFile.requirements[place.2.1]?.filter (·.isRelevant s.selectedContentTypes)
  let c ← r.checks[place.2.2.1]?
  let p ← c.criteria[place.2.2.2]?
  return ⟨s, r, c, p⟩

/-- The problem at a position where an auditor is stuck. -/
def Position.item? (p : Position) : Option Problem :=
  (p.recorded?.filter fun x => !Text.isBlank x.stuckText).map fun x =>
    { sampleId := p.sample.id
      sampleDescription := p.sample.description
      requirementKey := p.requirement.key
      requirementId := p.requirement.displayId
      requirementTitle := p.requirement.title
      checkId := p.check.id
      criterionId := p.criterion.id
      status := x.status
      observation := x.observation
      stuckText := Text.trim x.stuckText }

section Places

variable {p : Position} {a : Audit}

theorem Position.problem?_true : p.problem? true = p.item? := by
  rw [problem?, item?, stuck?]
  simp only [Bool.true_or, Option.filter_filter, Bool.and_true]
  rfl

theorem Position.problem?_false :
    p.problem? false = (p.problem? true).filter (·.status == .failed) := by
  rw [problem?, problem?, Option.filter_map]
  simp only [Bool.true_or, Bool.false_or, Option.filter_filter, Bool.true_and]
  rfl

theorem Audit.enumerates_positions : Enumerates Place.Before a.positionAt? a.positions := by
  have hrelevant := fun s : Sample => (Enumerates.getElem? a.ruleFile.requirements).filter
    (·.isRelevant s.selectedContentTypes)
  have hwalk := (Enumerates.getElem? a.samples).flatMap fun s => (hrelevant s).flatMap fun r =>
    (Enumerates.getElem? r.checks).flatMap fun c =>
      (Enumerates.getElem? c.criteria).filterMap fun p => some (Position.mk s r c p)
  simp only [List.filterMap_eq_map'] at hwalk
  exact hwalk

end Places

/-- The scan is complete, and its configuration only filters it: it finds one problem for each place
where an auditor is stuck, and one warning for each of those where the criterion is not failed. -/
theorem Audit.scan_complete (a : Audit) :
    Enumerates Place.Before (fun i => (a.positionAt? i).bind Position.item?)
      (a.scan true).problems ∧
    (a.scan false).problems = (a.scan true).problems.filter (·.status == .failed) ∧
    ∃ stuck, Enumerates Place.Before (fun i => (a.positionAt? i).bind Position.warning?) stuck ∧
      ∀ includeUnfailed, (a.scan includeUnfailed).warnings =
        stuck ++ a.orphanedResultKeys.map fun e => .orphanedResult e.1 e.2 := by
  refine ⟨?complete, ?filtered, _, enumerates_positions.filterMap _, fun _ => warnings_scan a⟩
  case complete =>
    simpa only [problems_scan, Position.problem?_true] using
      enumerates_positions.filterMap Position.item?
  case filtered =>
    simp only [problems_scan, List.filter_filterMap, Position.problem?_false]

end Conformance
