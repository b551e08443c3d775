import Conformance.Proofs.ProblemScan
import Conformance.Proofs.StatusTime

/-! Solving problems. A solved problem is gone from the list, with any other problem at its location
and with no other; nothing is written but the criterion's stuck text, and the status of the result
with its time. So the order in which problems are solved makes no difference. -/

namespace Conformance

/-! ### One result -/

section Result

variable {r : Requirement} {x y : RequirementResult} {checkId criterionId : String}

theorem RequirementResult.checks_clearStuck (x : RequirementResult) (checkId criterionId : String) :
    (x.clearStuck checkId criterionId).checks = x.checks.modify checkId fun c =>
      { c with criteria := c.criteria.modify criterionId fun p => { p with stuckText := "" } } :=
  rfl

theorem RequirementResult.criterion?_clearStuck (x : RequirementResult) (checkId criterionId : String)
    (c p : String) : (x.clearStuck checkId criterionId).criterion? c p =
      (x.criterion? c p).map fun z =>
        if c = checkId ∧ p = criterionId then { z with stuckText := "" } else z := by
  simp only [criterion?, checks_clearStuck, KeyedMap.get?_modify]
  cases x.checks.get? c with
  | none => rfl
  | some y =>
    by_cases hc : c = checkId
    · simp [hc, KeyedMap.get?_modify]
    · simp [hc]

theorem RequirementResult.clearStuck_comm (x : RequirementResult) (c p c' p' : String) :
    (x.clearStuck c p).clearStuck c' p' = (x.clearStuck c' p').clearStuck c p := by
  simp only [clearStuck, RequirementResult.mk.injEq, true_and]
  refine KeyedMap.modify_comm _ fun _ y => ?_
  simp only [CheckResult.mk.injEq, true_and]
  exact KeyedMap.modify_comm _ fun _ _ => rfl

/-- The computed status reads nothing but the checks. -/
theorem Requirement.status_of_checks (h : x.checks = y.checks) :
    r.status (some x) = r.status (some y) := by
  simp only [status, Option.bind_some, h]

/-- Of the checks it reads the marks and the statuses of criteria. -/
theorem Check.status_of_criterionStatus {y z : CheckResult} (c : Check) (hmark : y.mark = z.mark)
    (h : ∀ id, y.criterionStatus id = z.criterionStatus id) :
    c.status (some y) = c.status (some z) := by
  simp only [status, hmark, h]

theorem CheckResult.criterionStatus_modify (y : CheckResult) (p : String)
    {f : CriterionResult → CriterionResult} (hf : ∀ z, (f z).status = z.status) (id : String) :
    ({ y with criteria := y.criteria.modify p f } : CheckResult).criterionStatus id =
      y.criterionStatus id := by
  simp only [criterionStatus, KeyedMap.get?_modify, Option.map_map]
  congr 2
  funext z
  by_cases hid : id = p <;> simp [hid, hf]

/-- A call for help does not count for the status. -/
theorem Requirement.status_clearStuck (r : Requirement) (x : RequirementResult) (c p : String) :
    r.status (some (x.clearStuck c p)) = r.status (some x) := by
  have hcheck : ∀ d : Check,
      d.status ((x.clearStuck c p).checks.get? d.id) = d.status (x.checks.get? d.id) := by
    intro d
    rw [x.checks_clearStuck, KeyedMap.get?_modify]
    cases x.checks.get? d.id with
    | none => rfl
    | some y =>
      by_cases hd : d.id = c
      · rw [Option.map_some, if_pos hd]
        exact d.status_of_criterionStatus rfl (y.criterionStatus_modify p fun _ => rfl)
      · rw [Option.map_some, if_neg hd]
  simp only [status, Option.bind_some, hcheck]

theorem Requirement.markSolved_eq (r : Requirement) (x : RequirementResult) (c p : String)
    (now : Timestamp) : r.markSolved x c p now =
      { x.clearStuck c p with
        status := r.status (some x)
        lastStatusUpdate :=
          if r.status (some x) = x.status then x.lastStatusUpdate else some now } := by
  rw [markSolved, applyUpdate_some, status_clearStuck]
  rfl

/-- Solving a second problem of a result finds the status settled, so its time stays. -/
theorem Requirement.markSolved_markSolved (r : Requirement) (x : RequirementResult)
    (c p c' p' : String) (now : Timestamp) :
    r.markSolved (r.markSolved x c p now) c' p' now =
      { (x.clearStuck c p).clearStuck c' p' with
        status := r.status (some x)
        lastStatusUpdate :=
          if r.status (some x) = x.status then x.lastStatusUpdate else some now } := by
  have hstatus : r.status (some (r.markSolved x c p now)) = r.status (some x) := by
    rw [← status_clearStuck r x c p, markSolved_eq]
    exact status_of_checks rfl
  rw [markSolved_eq, hstatus, markSolved_eq, if_pos rfl]
  rfl

theorem Requirement.markSolved_comm (r : Requirement) (x : RequirementResult) (c p c' p' : String)
    (now : Timestamp) : r.markSolved (r.markSolved x c p now) c' p' now =
      r.markSolved (r.markSolved x c' p' now) c p now := by
  rw [markSolved_markSolved, markSolved_markSolved, x.clearStuck_comm]

end Result

/-! ### All samples at once -/

/-- The definition under a key by which statuses are computed; one without checks if the rule file
has none. -/
def RuleFile.definition (f : RuleFile) (key : String) : Requirement :=
  (f.requirement? key).getD { key }

/-- The sample with its problem at a location solved, if it is the one that the location names and
has a result there. -/
def Sample.solveAt (f : RuleFile) (now : Timestamp) (l : Location) (s : Sample) : Sample :=
  if s.id = l.sampleId then
    { s with
      results := s.results.modify l.requirementKey fun x =>
        (f.definition l.requirementKey).markSolved x l.checkId l.criterionId now }
  else s

def Audit.solveAt (now : Timestamp) (a : Audit) (l : Location) : Audit :=
  { a with samples := a.samples.map (Sample.solveAt a.ruleFile now l) }

section SolveAt

variable {f : RuleFile} {now : Timestamp} {l l' : Location} {s : Sample}

theorem Sample.solveAt_eq (f : RuleFile) (now : Timestamp) (l : Location) (s : Sample) :
    s.solveAt f now l = { s with results := (s.solveAt f now l).results } := by
  rw [solveAt]
  split <;> rfl

theorem Sample.id_solveAt : (s.solveAt f now l).id = s.id := by
  rw [solveAt_eq]

theorem Sample.keys_solveAt : (s.solveAt f now l).results.keys = s.results.keys := by
  rw [solveAt]
  split
  · exact KeyedMap.keys_modify _ _ _
  · rfl

theorem Sample.result?_solveAt (key : String) : (s.solveAt f now l).result? key =
    (s.result? key).map fun x => if s.id = l.sampleId ∧ key = l.requirementKey then
      (f.definition key).markSolved x l.checkId l.criterionId now else x := by
  rw [solveAt]
  by_cases hid : s.id = l.sampleId
  · rw [if_pos hid, result?, KeyedMap.get?_modify]
    by_cases hkey : key = l.requirementKey
    · simp [hid, hkey, result?]
    · simp [hkey, result?]
  · simp [hid]

theorem Sample.solveAt_comm (f : RuleFile) (now : Timestamp) (l l' : Location) (s : Sample) :
    (s.solveAt f now l).solveAt f now l' = (s.solveAt f now l').solveAt f now l := by
  by_cases hl : s.id = l.sampleId
  · by_cases hl' : s.id = l'.sampleId
    · simp only [solveAt, if_pos hl, if_pos hl', Sample.mk.injEq, true_and]
      refine KeyedMap.modify_comm _ fun hkey x => ?_
      rw [hkey]
      exact (Requirement.markSolved_comm _ _ _ _ _ _ _).symm
    · simp only [solveAt, if_pos hl, if_neg hl']
  · by_cases hl' : s.id = l'.sampleId
    · simp only [solveAt, if_neg hl, if_pos hl']
    · simp only [solveAt, if_neg hl, if_neg hl']

theorem Audit.solveAt_comm (now : Timestamp) (a : Audit) (l l' : Location) :
    (a.solveAt now l).solveAt now l' = (a.solveAt now l').solveAt now l := by
  simp only [solveAt, List.map_map]
  congr 1
  exact List.map_congr_left fun s _ => s.solveAt_comm a.ruleFile now l l'

end SolveAt

/-! ### The scan after a problem is solved -/

/-- Relevance does not look at results, so a sample has the same positions with others. -/
theorem Sample.positions_of_selection {s t : Sample} {f : RuleFile}
    (h : t.selectedContentTypes = s.selectedContentTypes) :
    t.positions f = (s.positions f).map fun p => { p with sample := t } := by
  simp only [positions, RuleFile.relevant, h, List.map_flatMap, List.map_map, Function.comp_def]

theorem filter_of_tag {α β : Type} [BEq β] [LawfulBEq β] [DecidableEq β] {o : Option α}
    {tag : α → β} {b b' : β} (h : ∀ a ∈ o, tag a = b) :
    o.filter (fun a => tag a != b') = if b = b' then none else o := by
  cases o with
  | none => simp
  | some a => simp [Option.filter_some, h a rfl]

namespace Position

/-- The position after a problem is solved at a location. -/
def solveAt (f : RuleFile) (now : Timestamp) (l : Location) (p : Position) : Position :=
  { p with sample := p.sample.solveAt f now l }

variable {f : RuleFile} {now : Timestamp} {l : Location} {p : Position}

theorem recorded?_solveAt : (p.solveAt f now l).recorded? =
    p.recorded?.map fun z => if p.location = l then { z with stuckText := "" } else z := by
  rw [recorded?, recorded?, solveAt, Sample.result?_solveAt]
  cases p.sample.result? p.requirement.key with
  | none => rfl
  | some x =>
    rw [Option.map_some, Option.bind_some, Option.bind_some, location]
    by_cases hresult : p.sample.id = l.sampleId ∧ p.requirement.key = l.requirementKey
    · have hcriterion := x.criterion?_clearStuck l.checkId l.criterionId p.check.id p.criterion.id
      rw [if_pos hresult, Requirement.markSolved_eq]
      refine hcriterion.trans ?_
      simp [Location.ext_iff, hresult]
    · have hl : (⟨p.sample.id, p.requirement.key, p.check.id, p.criterion.id⟩ : Location) ≠ l := by
        rintro rfl
        exact hresult ⟨rfl, rfl⟩
      rw [if_neg hresult]
      simp [hl]

/-- A solved position calls for no help, and any other one for the same as before. -/
theorem stuck?_solveAt :
    (p.solveAt f now l).stuck? = if p.location = l then none else p.stuck? := by
  rw [stuck?, recorded?_solveAt, stuck?]
  by_cases hl : p.location = l
  · rw [if_pos hl, Option.filter_eq_none_iff]
    intro z hz
    obtain ⟨x, -, rfl⟩ := Option.map_eq_some_iff.mp hz
    simp [hl, CriterionResult.isStuck, Text.isBlank]
  · simp [hl]

theorem problem?_solveAt (includeUnfailed : Bool) : (p.solveAt f now l).problem? includeUnfailed =
    (p.problem? includeUnfailed).filter fun q => q.location != l := by
  have hsame : Problem.of (p.solveAt f now l).sample p.requirement p.check p.criterion =
      Problem.of p.sample p.requirement p.check p.criterion := by
    rw [solveAt, Sample.solveAt_eq]
    rfl
  have hproblem : (p.solveAt f now l).problem? includeUnfailed =
      if p.location = l then none else p.problem? includeUnfailed := by
    rw [problem?, problem?, stuck?_solveAt, apply_ite (Option.filter _), apply_ite (Option.map _)]
    exact congrArg _ (congrArg (Option.map · _) hsame)
  rw [hproblem, filter_of_tag fun _ hq => location_of_problem? hq]

theorem warning?_solveAt : (p.solveAt f now l).warning? =
    p.warning?.filter fun w => w.stuckAt? != some l := by
  have hid : (p.solveAt f now l).sample.id = p.sample.id := Sample.id_solveAt
  have hwarning : (p.solveAt f now l).warning? = if p.location = l then none else p.warning? := by
    rw [warning?, warning?, stuck?_solveAt, hid, apply_ite (Option.filter _),
      apply_ite (Option.map _)]
    rfl
  rw [hwarning, filter_of_tag fun _ hw => stuckAt?_of_warning? hw]
  simp only [Option.some.injEq]

end Position

section Scan

variable (now : Timestamp) (a : Audit) (l : Location) (includeUnfailed : Bool)

theorem Audit.positions_solveAt : (a.solveAt now l).positions =
    a.positions.map (Position.solveAt a.ruleFile now l) := by
  have hsample : ∀ s : Sample, (s.solveAt a.ruleFile now l).positions a.ruleFile =
      (s.positions a.ruleFile).map (Position.solveAt a.ruleFile now l) := by
    intro s
    rw [Sample.positions_of_selection (s := s) (by rw [Sample.solveAt_eq])]
    refine List.map_congr_left fun p hp => ?_
    obtain ⟨r, -, hp⟩ := List.mem_flatMap.mp hp
    obtain ⟨c, -, hp⟩ := List.mem_flatMap.mp hp
    obtain ⟨q, -, rfl⟩ := List.mem_map.mp hp
    rfl
  simp only [positions, solveAt, List.flatMap_map, List.map_flatMap, hsample]

theorem Audit.orphanWarnings_solveAt : (a.solveAt now l).orphanWarnings = a.orphanWarnings := by
  simp only [orphanWarnings, orphanedResultKeys, solveAt, List.flatMap_map, Sample.id_solveAt,
    Sample.keys_solveAt]

theorem Audit.problems_solveAt : ((a.solveAt now l).scan includeUnfailed).problems =
    (a.scan includeUnfailed).problems.filter fun p => p.location != l := by
  simp only [problems_scan, positions_solveAt, List.filterMap_map, List.filter_filterMap,
    Function.comp_def, Position.problem?_solveAt]

theorem Audit.warnings_solveAt : ((a.solveAt now l).scan includeUnfailed).warnings =
    (a.scan includeUnfailed).warnings.filter fun w => w.stuckAt? != some l := by
  have horphans : a.orphanWarnings.filter (fun w => w.stuckAt? != some l) = a.orphanWarnings := by
    rw [List.filter_eq_self]
    intro w hw
    obtain ⟨e, -, rfl⟩ := List.mem_map.mp hw
    rfl
  simp only [warnings_scan, positions_solveAt, orphanWarnings_solveAt, List.filter_append, horphans,
    List.filterMap_map, List.filter_filterMap, Function.comp_def, Position.warning?_solveAt]

end Scan

/-! ### Solving one problem -/

theorem replaceSample_eq_map {samples : List Sample} {s : Sample} {g : Sample → Sample}
    (hids : (samples.map (·.id)).Nodup) (hs : s ∈ samples)
    (hg : ∀ t ∈ samples, t.id ≠ s.id → g t = t) :
    replaceSample s.id (g s) samples = samples.map g := by
  induction samples with
  | nil => cases hs
  | cons head rest ih =>
    rw [List.map_cons, List.nodup_cons] at hids
    rw [List.forall_mem_cons] at hg
    rw [replaceSample, List.map_cons]
    by_cases hid : head.id = s.id
    · have hfresh : ∀ t ∈ rest, t.id ≠ s.id := by
        intro t ht heq
        exact hids.1 (List.mem_map.mpr ⟨t, ht, heq.trans hid.symm⟩)
      have hhead : s = head := by
        rcases List.mem_cons.mp hs with rfl | hrest
        · rfl
        · exact absurd rfl (hfresh s hrest)
      have hrest : rest.map g = rest :=
        (List.map_congr_left fun t ht => hg.2 t ht (hfresh t ht)).trans (List.map_id' rest)
      rw [if_pos hid, hrest, hhead]
    · have hrest : s ∈ rest := (List.mem_cons.mp hs).resolve_left fun h => hid (h ▸ rfl)
      rw [if_neg hid, ih hids.2 hrest hg.2, hg.1 hid]

namespace Audit

variable {a : Audit} {l : Location} {now : Timestamp}

theorem sample?_of_mem {s : Sample} (hids : (a.samples.map (·.id)).Nodup) (hs : s ∈ a.samples) :
    a.sample? s.id = some s :=
  find?_of_mem_of_nodup hids hs

/-- A location in a stored result that the rule file defines. -/
structure Resolvable (a : Audit) (l : Location) : Prop where
  defined : a.ruleFile.contains l.requirementKey = true
  stored : ∃ s ∈ a.samples, s.id = l.sampleId ∧ (s.result? l.requirementKey).isSome

theorem resolvable_of_mem_problems {includeUnfailed : Bool} {p : Problem}
    (h : p ∈ (a.scan includeUnfailed).problems) : a.Resolvable p.location := by
  rw [problems_scan] at h
  obtain ⟨q, hq, hp⟩ := List.mem_filterMap.mp h
  obtain ⟨hs, hr, -, -⟩ := mem_positions.mp hq
  obtain ⟨z, hz⟩ := Position.recorded?_of_problem? hp
  obtain ⟨x, hx, -⟩ := Option.bind_eq_some_iff.mp hz
  rw [Position.location_of_problem? hp]
  exact ⟨RuleFile.contains_of_mem (List.mem_of_mem_filter hr), q.sample, hs, rfl,
    Option.isSome_of_eq_some hx⟩

theorem Resolvable.solveAt {l' : Location} (h : a.Resolvable l) :
    (a.solveAt now l').Resolvable l := by
  obtain ⟨s, hs, hid, hx⟩ := h.stored
  refine ⟨h.defined, s.solveAt a.ruleFile now l', List.mem_map_of_mem hs,
    Sample.id_solveAt.trans hid, ?_⟩
  rw [Sample.result?_solveAt, Option.isSome_map]
  exact hx

theorem ids_solveAt : (a.solveAt now l).samples.map (·.id) = a.samples.map (·.id) := by
  simp only [Audit.solveAt, List.map_map, Function.comp_def, Sample.id_solveAt]

/-- The sample that is looked up by its id is the one that the walk came from, and its result is
there. -/
theorem resolve_eq {p : Problem} (hids : (a.samples.map (·.id)).Nodup)
    (h : a.Resolvable p.location) : a.resolve p now = .ok (a.solveAt now p.location) := by
  obtain ⟨s, hs, hid, hx⟩ := h.stored
  obtain ⟨r, hr⟩ := RuleFile.exists_requirement? h.defined
  obtain ⟨x, hx⟩ := Option.isSome_iff_exists.mp hx
  have hr : a.ruleFile.requirement? p.requirementKey = some r := hr
  have hdef : a.ruleFile.definition p.requirementKey = r := by
    rw [RuleFile.definition, hr, Option.getD_some]
  have hsample : a.sample? p.sampleId = some s :=
    (congrArg a.sample? hid).symm.trans (sample?_of_mem hids hs)
  have hsolved : s.solveAt a.ruleFile now p.location = { s with
      results := s.results.insert p.requirementKey
        (r.markSolved x p.checkId p.criterionId now) } := by
    rw [Sample.solveAt, if_pos hid, ← hdef]
    congr 1
    exact (KeyedMap.insert_eq_modify _ _ hx).symm
  have hother : ∀ t ∈ a.samples, t.id ≠ s.id → t.solveAt a.ruleFile now p.location = t := by
    intro t _ ht
    rw [Sample.solveAt, if_neg fun heq => ht (heq.trans hid.symm)]
  have hcurrent : s.result? p.requirementKey = some x := hx
  rw [resolve, hr]
  simp only [hsample, hcurrent, Option.getD_some, storeResult, setSample, ← hsolved]
  rw [replaceSample_eq_map hids hs hother]
  rfl

end Audit

/-- The samples differ at most in the result at a location: there in the stuck text of the criterion,
and in the status with its time. -/
structure Sample.SolvedAt (l : Location) (s t : Sample) : Prop where
  fields : t = { s with results := t.results }
  elsewhere : ∀ key, ¬(s.id = l.sampleId ∧ key = l.requirementKey) → t.result? key = s.result? key
  there : s.id = l.sampleId → ∃ x y, s.result? l.requirementKey = some x ∧
    t.result? l.requirementKey = some y ∧
      y = { x with
        status := y.status
        lastStatusUpdate := y.lastStatusUpdate
        checks := x.checks.modify l.checkId fun c =>
          { c with criteria := c.criteria.modify l.criterionId fun p => { p with stuckText := "" } } }

/-- The audits differ at most in one result, in what solving a problem at a location changes. -/
structure Audit.SolvedAt (l : Location) (a next : Audit) : Prop where
  ruleFile : next.ruleFile = a.ruleFile
  tombstones : next.tombstones = a.tombstones
  samples : List.Forall₂ (Sample.SolvedAt l) a.samples next.samples

theorem Sample.solvedAt_solveAt {l : Location} {s : Sample} (f : RuleFile) (now : Timestamp)
    (h : s.id = l.sampleId → (s.result? l.requirementKey).isSome) :
    s.SolvedAt l (s.solveAt f now l) where
  fields := s.solveAt_eq f now l
  elsewhere key hkey := by
    rw [result?_solveAt]
    simp only [if_neg hkey, Option.map_id']
  there hid := by
    obtain ⟨x, hx⟩ := Option.isSome_iff_exists.mp (h hid)
    refine ⟨x, (f.definition l.requirementKey).markSolved x l.checkId l.criterionId now, hx, ?_, ?_⟩
    · rw [result?_solveAt, hx, Option.map_some, if_pos ⟨hid, rfl⟩]
    · rw [Requirement.markSolved_eq]
      rfl

theorem Audit.solvedAt_solveAt {a : Audit} {l : Location} (now : Timestamp)
    (hids : (a.samples.map (·.id)).Nodup) (h : a.Resolvable l) :
    a.SolvedAt l (a.solveAt now l) where
  ruleFile := rfl
  tombstones := rfl
  samples := by
    rw [solveAt, List.forall₂_map_right_iff, List.forall₂_same]
    intro s hs
    obtain ⟨t, ht, hid, hx⟩ := h.stored
    refine Sample.solvedAt_solveAt a.ruleFile now fun hs' => ?_
    rwa [List.inj_on_of_nodup_map hids hs ht (hs'.trans hid.symm)]

/-! ### Solving problems one after another -/

namespace Audit

variable {a : Audit} {now : Timestamp}

/-- Problems solved in the order of the list, all at one time. -/
def resolveAll (a : Audit) (ps : List Problem) (now : Timestamp) : Except AuditError Audit :=
  ps.foldlM (fun a p => a.resolve p now) a

theorem resolveAll_eq {ps : List Problem} (hids : (a.samples.map (·.id)).Nodup)
    (h : ∀ p ∈ ps, a.Resolvable p.location) :
    a.resolveAll ps now = .ok (ps.foldl (fun a p => a.solveAt now p.location) a) := by
  induction ps generalizing a with
  | nil => rfl
  | cons p rest ih =>
    rw [List.forall_mem_cons] at h
    have hnext : ((a.solveAt now p.location).samples.map (·.id)).Nodup := by
      rwa [ids_solveAt]
    rw [resolveAll, List.foldlM_cons, resolve_eq hids h.1]
    exact ih hnext fun q hq => (h.2 q hq).solveAt

/-- What is left is at none of the locations. -/
theorem problems_foldl_solveAt (ps : List Problem) :
    (ps.foldl (fun a p => a.solveAt now p.location) a).problems =
      a.problems.filter fun q => q.location ∉ ps.map Problem.location := by
  induction ps generalizing a with
  | nil => simp
  | cons p rest ih =>
    rw [List.foldl_cons, ih, problems, problems_solveAt, List.filter_filter, problems]
    refine List.filter_congr fun q _ => ?_
    by_cases hq : q.location = p.location <;> simp [hq]

theorem foldl_solveAt_perm {ps qs : List Problem} (h : ps.Perm qs) :
    ps.foldl (fun a p => a.solveAt now p.location) a =
      qs.foldl (fun a p => a.solveAt now p.location) a :=
  h.foldl_eq' (fun p _ q _ (b : Audit) => b.solveAt_comm now p.location q.location) a

/-- Solving a collected problem succeeds, and takes from the list the problems at its location and
no others. Solving all of them, in whatever order, leaves one and the same audit, without any. -/
theorem resolve_exact (a : Audit) (hids : (a.samples.map (·.id)).Nodup) (now : Timestamp) :
    (∀ includeUnfailed, ∀ p ∈ (a.scan includeUnfailed).problems, ∃ next,
      a.resolve p now = .ok next ∧
      (next.scan includeUnfailed).problems =
        (a.scan includeUnfailed).problems.filter (fun q => q.location != p.location) ∧
      (next.scan includeUnfailed).warnings =
        (a.scan includeUnfailed).warnings.filter (fun w => w.stuckAt? != some p.location) ∧
      a.SolvedAt p.location next) ∧
    ∃ final, final.problems = [] ∧
      ∀ ps, ps.Perm a.problems → a.resolveAll ps now = .ok final := by
  constructor
  · intro includeUnfailed p hp
    have hresolvable : a.Resolvable p.location := resolvable_of_mem_problems hp
    exact ⟨a.solveAt now p.location, resolve_eq hids hresolvable,
      problems_solveAt now a p.location includeUnfailed,
      warnings_solveAt now a p.location includeUnfailed, solvedAt_solveAt now hids hresolvable⟩
  · refine ⟨a.problems.foldl (fun a p => a.solveAt now p.location) a, ?_, ?_⟩
    · rw [problems_foldl_solveAt, List.filter_eq_nil_iff]
      intro p hp
      simpa using List.mem_map_of_mem hp
    · intro ps hperm
      have hresolvable : ∀ p ∈ ps, a.Resolvable p.location :=
        fun p hp => resolvable_of_mem_problems (hperm.mem_iff.mp hp)
      rw [resolveAll_eq hids hresolvable, foldl_solveAt_perm hperm]

end Audit

namespace Specimen

/-- Auditors are stuck twice on one page: on a failed criterion, and on one whose status is stale.
The key of the requirement stands twice in the rule file. -/
def stuck : Audit where
  ruleFile := { requirements := [kept, gone, { kept with title := "Kept again" }] }
  samples :=
    [{ id := "page"
       results := .ofList [
        ("gone", { checks := .ofList [("images", { criteria := .ofList [
          ("alt", { status := .failed, stuckText := "What counts as decorative?" })] })] }),
        ("kept", { status := .passed, needsReview := true, checks := .ofList [
          ("images", { criteria := .ofList [("alt", { stuckText := "Which image?" })] })] })] },
     { id := "other" }]

theorem resolve_stuck : (stuck.samples.map (·.id)).Nodup ∧
    stuck.problems.map Problem.requirementTitle = ["Kept", "Gone", "Kept again"] ∧
    (∀ includeUnfailed, ∀ p ∈ (stuck.scan includeUnfailed).problems, ∃ next,
      stuck.resolve p noon = .ok next ∧
      (next.scan includeUnfailed).problems =
        (stuck.scan includeUnfailed).problems.filter (fun q => q.location != p.location) ∧
      (next.scan includeUnfailed).warnings =
        (stuck.scan includeUnfailed).warnings.filter (fun w => w.stuckAt? != some p.location) ∧
      stuck.SolvedAt p.location next) ∧
    ∃ final, final.problems = [] ∧
      ∀ ps, ps.Perm stuck.problems → stuck.resolveAll ps noon = .ok final := by
  have hids : (stuck.samples.map (·.id)).Nodup := by decide
  exact ⟨hids, by decide, Audit.resolve_exact stuck hids noon⟩

end Specimen

end Conformance
