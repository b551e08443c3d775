import Conformance.Problem
import Mathlib.Data.List.Basic

/-! The scan for problems as one walk. The scan descends from samples through relevant requirements
and checks to criteria, and gives up at each level where nothing is recorded. Its problems and
warnings are those of the declared positions in order, each read off what is recorded there. -/

namespace Conformance

/-- A declared criterion of a requirement that is relevant to a sample. -/
structure Position where
  sample : Sample
  requirement : Requirement
  check : Check
  criterion : Criterion

/-- Where a criterion is recorded. -/
@[ext] structure Location where
  sampleId : String
  requirementKey : String
  checkId : String
  criterionId : String
deriving DecidableEq

def Problem.location (p : Problem) : Location :=
  ⟨p.sampleId, p.requirementKey, p.checkId, p.criterionId⟩

/-- The location of a criterion that a warning calls stuck. -/
def Warning.stuckAt? : Warning → Option Location
  | .stuckWithoutFailure sampleId key checkId criterionId _ =>
    some ⟨sampleId, key, checkId, criterionId⟩
  | .requirementWithoutChecks _ => none
  | .checkWithoutCriteria _ _ => none
  | .orphanedResult _ _ => none

namespace Position

def location (p : Position) : Location :=
  ⟨p.sample.id, p.requirement.key, p.check.id, p.criterion.id⟩

def recorded? (p : Position) : Option CriterionResult :=
  (p.sample.result? p.requirement.key).bind fun x => x.criterion? p.check.id p.criterion.id

/-- What is recorded, if it calls for help. -/
def stuck? (p : Position) : Option CriterionResult := p.recorded?.filter CriterionResult.isStuck

def problem? (includeUnfailed : Bool) (p : Position) : Option Problem :=
  (p.stuck?.filter fun x => includeUnfailed || x.status == .failed).map
    (.of p.sample p.requirement p.check p.criterion)

def warning? (p : Position) : Option Warning :=
  (p.stuck?.filter fun x => x.status != .failed).map fun x =>
    .stuckWithoutFailure p.sample.id p.requirement.key p.check.id p.criterion.id x.status

variable {p : Position}

theorem location_of_problem? {includeUnfailed : Bool} {q : Problem}
    (h : p.problem? includeUnfailed = some q) : q.location = p.location := by
  obtain ⟨x, -, rfl⟩ := Option.map_eq_some_iff.mp h
  rfl

theorem stuckAt?_of_warning? {w : Warning} (h : p.warning? = some w) :
    w.stuckAt? = some p.location := by
  obtain ⟨x, -, rfl⟩ := Option.map_eq_some_iff.mp h
  rfl

theorem recorded?_of_problem? {includeUnfailed : Bool} {q : Problem}
    (h : p.problem? includeUnfailed = some q) : ∃ x, p.recorded? = some x := by
  obtain ⟨x, hx, -⟩ := Option.map_eq_some_iff.mp h
  exact ⟨x, (Option.filter_eq_some_iff.mp (Option.filter_eq_some_iff.mp hx).1).1⟩

end Position

/-! ### The walk -/

def Sample.positions (f : RuleFile) (s : Sample) : List Position :=
  (f.relevant s).flatMap fun r => r.checks.flatMap fun c => c.criteria.map fun p => ⟨s, r, c, p⟩

def Audit.positions (a : Audit) : List Position := a.samples.flatMap (Sample.positions a.ruleFile)

theorem Audit.mem_positions {a : Audit} {p : Position} :
    p ∈ a.positions ↔ p.sample ∈ a.samples ∧ p.requirement ∈ a.ruleFile.relevant p.sample ∧
      p.check ∈ p.requirement.checks ∧ p.criterion ∈ p.check.criteria := by
  obtain ⟨s, r, c, q⟩ := p
  simp only [positions, Sample.positions, List.mem_flatMap, List.mem_map, Position.mk.injEq]
  constructor
  · rintro ⟨_, hs, _, hr, _, hc, _, hq, rfl, rfl, rfl, rfl⟩
    exact ⟨hs, hr, hc, hq⟩
  · rintro ⟨hs, hr, hc, hq⟩
    exact ⟨s, hs, r, hr, c, hc, q, hq, rfl, rfl, rfl, rfl⟩

namespace ProblemScan

/-- What is found at the positions of a list, in order. -/
def ofPositions (includeUnfailed : Bool) (ps : List Position) : ProblemScan where
  problems := ps.filterMap (Position.problem? includeUnfailed)
  warnings := ps.filterMap Position.warning?

variable {includeUnfailed : Bool}

theorem ofPositions_append (ps qs : List Position) : ofPositions includeUnfailed (ps ++ qs) =
    (ofPositions includeUnfailed ps).append (ofPositions includeUnfailed qs) := by
  simp [ofPositions, append]

/-- Scans one after another are the scan of all their positions. -/
theorem concat_map {α : Type} {as : List α} {scan : α → ProblemScan} {positions : α → List Position}
    (h : ∀ a ∈ as, scan a = ofPositions includeUnfailed (positions a)) :
    concat (as.map scan) = ofPositions includeUnfailed (as.flatMap positions) := by
  induction as with
  | nil => rfl
  | cons a rest ih =>
    rw [List.forall_mem_cons] at h
    rw [List.flatMap_cons, ofPositions_append, ← h.1, ← ih h.2]
    rfl

theorem ofPositions_of_none {ps : List Position} (h : ∀ p ∈ ps, p.recorded? = none) :
    ofPositions includeUnfailed ps = {} := by
  have hproblems : ps.filterMap (Position.problem? includeUnfailed) = [] := by
    rw [List.filterMap_eq_nil_iff]
    intro p hp
    simp [Position.problem?, Position.stuck?, h p hp]
  have hwarnings : ps.filterMap Position.warning? = [] := by
    rw [List.filterMap_eq_nil_iff]
    intro p hp
    simp [Position.warning?, Position.stuck?, h p hp]
  rw [ofPositions, hproblems, hwarnings]

end ProblemScan

section Walk

open ProblemScan

variable {includeUnfailed : Bool} {s : Sample} {r : Requirement} {c : Check}

theorem Criterion.scan_eq {p : Criterion} {x : RequirementResult} {y : CheckResult}
    (hx : s.result? r.key = some x) (hy : x.checks.get? c.id = some y) :
    Criterion.scan includeUnfailed s r c y p = ofPositions includeUnfailed [⟨s, r, c, p⟩] := by
  have hrecorded : Position.recorded? ⟨s, r, c, p⟩ = y.criteria.get? p.id := by
    simp [Position.recorded?, RequirementResult.criterion?, hx, hy]
  rw [scan, ofPositions]
  simp only [List.filterMap_cons, List.filterMap_nil, Position.problem?, Position.warning?,
    Position.stuck?, hrecorded]
  cases y.criteria.get? p.id with
  | none => rfl
  | some z =>
    by_cases hstuck : z.isStuck = true
    · by_cases hfailed : z.status = .failed
      · simp [Option.filter_some, hstuck, hfailed]
      · cases includeUnfailed <;> simp [Option.filter_some, hstuck, hfailed]
    · simp [Option.filter_some, hstuck]

theorem Check.scan_eq {x : RequirementResult} (hx : s.result? r.key = some x) :
    Check.scan includeUnfailed s r x c =
      ofPositions includeUnfailed (c.criteria.map fun p => ⟨s, r, c, p⟩) := by
  rw [scan]
  cases hy : x.checks.get? c.id with
  | none =>
    refine (ofPositions_of_none fun q hq => ?_).symm
    obtain ⟨p, -, rfl⟩ := List.mem_map.mp hq
    simp [Position.recorded?, RequirementResult.criterion?, hx, hy]
  | some y =>
    rw [List.map_eq_flatMap]
    exact concat_map fun p _ => Criterion.scan_eq hx hy

theorem Requirement.scan_eq : Requirement.scan includeUnfailed s r = ofPositions includeUnfailed
    (r.checks.flatMap fun c => c.criteria.map fun p => ⟨s, r, c, p⟩) := by
  rw [scan]
  cases hx : s.result? r.key with
  | none =>
    refine (ofPositions_of_none fun q hq => ?_).symm
    obtain ⟨c, -, hq⟩ := List.mem_flatMap.mp hq
    obtain ⟨p, -, rfl⟩ := List.mem_map.mp hq
    simp [Position.recorded?, hx]
  | some x => exact concat_map fun c _ => Check.scan_eq hx

theorem Sample.scan_eq (f : RuleFile) :
    Sample.scan includeUnfailed f s = ofPositions includeUnfailed (s.positions f) :=
  concat_map fun _ _ => Requirement.scan_eq

/-- The scan finds what is recorded at the positions of the audit, and then the orphaned results. -/
theorem Audit.scan_eq (a : Audit) : a.scan includeUnfailed =
    (ofPositions includeUnfailed a.positions).append { warnings := a.orphanWarnings } := by
  rw [scan, concat_map fun s _ => Sample.scan_eq (s := s) a.ruleFile]
  rfl

theorem Audit.problems_scan (a : Audit) : (a.scan includeUnfailed).problems =
    a.positions.filterMap (Position.problem? includeUnfailed) := by
  simp [scan_eq, append, ofPositions]

theorem Audit.warnings_scan (a : Audit) : (a.scan includeUnfailed).warnings =
    a.positions.filterMap Position.warning? ++ a.orphanWarnings := by
  rw [scan_eq]
  rfl

end Walk

end Conformance
