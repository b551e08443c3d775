import Conformance.Proofs.EditCommit
import Conformance.Proofs.Operation
import Conformance.Proofs.Prediction
import Conformance.Proofs.Resolution
import Conformance.Proofs.SummaryLevels
import Mathlib.Data.List.Forall2

/-! Results in which nothing is recorded show nowhere. Computed statuses read marks and statuses of
criteria, and problems read calls for help; a result without findings has none of these, so it can
be deleted unseen. Edits and updates that announce no loss delete such results only. -/

namespace Conformance

/-- Two stored results, or missing ones, that say the same about statuses and calls for help. -/
structure SameFindings (x y : Option RequirementResult) : Prop where
  status : ∀ r : Requirement, r.status x = r.status y
  stuck : ∀ checkId criterionId,
    (x.bind fun z => z.criterion? checkId criterionId).filter CriterionResult.isStuck =
      (y.bind fun z => z.criterion? checkId criterionId).filter CriterionResult.isStuck

/-- Two samples that differ at most in their results, and there not in what the results say. -/
structure Sample.LooksLike (s t : Sample) : Prop where
  fields : t = { s with results := t.results }
  findings : ∀ key, SameFindings (s.result? key) (t.result? key)

/-- The sample without the results under some keys. -/
def Sample.without (s : Sample) (drop : String → Bool) : Sample :=
  { s with results := s.results.filter fun key _ => !drop key }

/-- The audit without some results, by the position of the sample and the key. -/
def Audit.without (a : Audit) (drop : Nat → String → Bool) : Audit :=
  { a with samples := a.samples.mapIdx fun i s => s.without (drop i) }

/-- Two audits with the same computed statuses, counts of statuses, and calls for help. -/
structure Audit.SameView (a b : Audit) : Prop where
  computed : List.Forall₂ (fun s t => ∀ r : Requirement,
    r.status (s.result? r.key) = r.status (t.result? r.key)) a.samples b.samples
  samples : List.Forall₂ (fun s t => s.sampleId = t.sampleId ∧
    (∀ status, s.counts.of status = t.counts.of status) ∧ s.status = t.status)
    a.summary.samples b.summary.samples
  totals : ∀ status, a.summary.totals.of status = b.summary.totals.of status
  status : a.summary.status = b.summary.status
  problems : ∀ includeUnfailed,
    (a.scan includeUnfailed).problems = (b.scan includeUnfailed).problems
  stuckWarnings : ∀ includeUnfailed,
    (a.scan includeUnfailed).warnings.filter (·.stuckAt?.isSome) =
      (b.scan includeUnfailed).warnings.filter (·.stuckAt?.isSome)

/-! ### One result -/

section Result

variable {x : RequirementResult}

theorem KeyedMap.of_any_eq_false {α : Type} {m : KeyedMap α} {p : α → Bool} {key : String} {a : α}
    (h : m.any p = false) (ha : m.get? key = some a) : p a = false :=
  eq_false_of_ne_true (List.any_eq_false.mp h a
    (List.mem_map.mpr ⟨(key, a), mem_entries_iff.mpr ha, rfl⟩))

theorem RequirementResult.check_of_unrecorded (h : x.hasRecordedData = false) {checkId : String}
    {y : CheckResult} (hy : x.checks.get? checkId = some y) :
    y.mark = .notAudited ∧ ∀ criterionId z, y.criteria.get? criterionId = some z →
      z.isStuck = false := by
  simp only [hasRecordedData, Bool.or_eq_false_iff] at h
  have hcheck := KeyedMap.of_any_eq_false h.2 hy
  simp only [CheckResult.hasRecordedData, Bool.or_eq_false_iff, bne_eq_false_iff_eq] at hcheck
  refine ⟨hcheck.1, fun criterionId z hz => ?_⟩
  have hcriterion := KeyedMap.of_any_eq_false hcheck.2 hz
  simp only [CriterionResult.hasRecordedData, Bool.or_eq_false_iff] at hcriterion
  exact hcriterion.2

theorem SameFindings.refl (x : Option RequirementResult) : SameFindings x x :=
  ⟨fun _ => rfl, fun _ _ => rfl⟩

theorem SameFindings.of_unrecorded (h : x.hasRecordedData = false) :
    SameFindings (some x) none where
  status r := by
    have hcheck : ∀ c : Check, c.status (x.checks.get? c.id) = c.status none := by
      intro c
      cases hy : x.checks.get? c.id with
      | none => rfl
      | some y =>
        have hmark := (x.check_of_unrecorded h hy).1
        simp only [Check.status, hmark]
    simp only [Requirement.status, Option.bind_some, Option.bind_none, hcheck]
  stuck checkId criterionId := by
    rw [Option.bind_some, Option.bind_none, RequirementResult.criterion?, Option.filter_none,
      Option.filter_eq_none_iff]
    intro z hz
    obtain ⟨y, hy, hz⟩ := Option.bind_eq_some_iff.mp hz
    simp [(x.check_of_unrecorded h hy).2 criterionId z hz]

theorem SameFindings.of_checks {x y : RequirementResult} (h : x.checks = y.checks) :
    SameFindings (some x) (some y) where
  status _ := Requirement.status_of_checks h
  stuck _ _ := by simp only [Option.bind_some, RequirementResult.criterion?, h]

end Result

/-! ### Samples -/

section Samples

variable {s t : Sample}

theorem Sample.LooksLike.refl (s : Sample) : s.LooksLike s := ⟨rfl, fun _ => .refl _⟩

theorem Sample.LooksLike.of_results {s : Sample} {m n : KeyedMap RequirementResult}
    (h : ∀ key, SameFindings (m.get? key) (n.get? key)) :
    Sample.LooksLike { s with results := m } { s with results := n } :=
  ⟨rfl, h⟩

theorem Sample.looksLike_without {drop : String → Bool}
    (h : ∀ key x, s.result? key = some x → drop key = true → x.hasRecordedData = false) :
    s.LooksLike (s.without drop) := by
  refine ⟨rfl, fun key => ?_⟩
  rw [result?, result?, without, KeyedMap.get?_filter]
  cases hx : s.results.get? key with
  | none => exact .refl none
  | some x =>
    cases hdrop : drop key with
    | true => simpa [Option.filter_some] using SameFindings.of_unrecorded (h key x hx hdrop)
    | false => simpa [Option.filter_some] using SameFindings.refl (some x)

variable {f : RuleFile}

theorem Sample.LooksLike.statuses_eq (h : s.LooksLike t) : s.statuses f = t.statuses f := by
  have hrelevant : f.relevant s = f.relevant t := by rw [h.fields]; rfl
  rw [Sample.statuses, Sample.statuses, hrelevant]
  exact List.map_congr_left fun r _ => (h.findings r.key).status r

theorem Sample.sample_of_mem_positions {p : Position} (hp : p ∈ s.positions f) : p.sample = s := by
  simp only [positions, List.mem_flatMap, List.mem_map] at hp
  obtain ⟨r, -, c, -, q, -, rfl⟩ := hp
  rfl

/-- What is found at the positions of a sample depends on the calls for help there, and on the
sample's own fields. -/
theorem Sample.LooksLike.filterMap_positions {α : Type} {found : Position → Option α}
    (h : s.LooksLike t)
    (hfound : ∀ p : Position, p.sample = s → found p = found { p with sample := t }) :
    (s.positions f).filterMap found = (t.positions f).filterMap found := by
  have hselected : t.selectedContentTypes = s.selectedContentTypes := by rw [h.fields]
  rw [positions_of_selection hselected, List.filterMap_map]
  exact List.filterMap_congr fun p hp => hfound p (sample_of_mem_positions hp)

theorem Sample.LooksLike.stuck?_eq (h : s.LooksLike t) {p : Position} (hp : p.sample = s) :
    p.stuck? = Position.stuck? { p with sample := t } := by
  subst hp
  exact (h.findings p.requirement.key).stuck p.check.id p.criterion.id

end Samples

/-! ### Audits -/

theorem flatMap_eq_of_forall₂ {α β : Type} {R : α → α → Prop} {as bs : List α} {g : α → List β}
    (h : List.Forall₂ R as bs) (hg : ∀ a b, R a b → g a = g b) : as.flatMap g = bs.flatMap g := by
  have hflat : List.Forall₂ Eq (as.flatMap g) (bs.flatMap g) :=
    List.rel_flatMap h fun a b hab => by rw [hg a b hab, List.forall₂_eq_eq_eq]
  rwa [List.forall₂_eq_eq_eq] at hflat

/-- The warnings about calls for help without a failure. -/
theorem Audit.stuckWarnings_scan (a : Audit) (includeUnfailed : Bool) :
    (a.scan includeUnfailed).warnings.filter (·.stuckAt?.isSome) =
      a.positions.filterMap Position.warning? := by
  have hstuck : (a.positions.filterMap Position.warning?).filter (·.stuckAt?.isSome) =
      a.positions.filterMap Position.warning? := by
    rw [List.filter_eq_self]
    intro w hw
    obtain ⟨p, -, hp⟩ := List.mem_filterMap.mp hw
    rw [Position.stuckAt?_of_warning? hp]
    rfl
  have horphans : a.orphanWarnings.filter (·.stuckAt?.isSome) = [] := by
    rw [List.filter_eq_nil_iff]
    intro w hw
    obtain ⟨e, -, rfl⟩ := List.mem_map.mp hw
    exact Bool.false_ne_true
  rw [warnings_scan, List.filter_append, hstuck, horphans, List.append_nil]

section Audits

variable {a b : Audit}

theorem Audit.sameView_of_looksLike (hfile : a.ruleFile = b.ruleFile)
    (h : List.Forall₂ Sample.LooksLike a.samples b.samples) : a.SameView b := by
  have hstatuses : a.samples.flatMap (Sample.statuses a.ruleFile) =
      b.samples.flatMap (Sample.statuses b.ruleFile) := by
    rw [← hfile]
    exact flatMap_eq_of_forall₂ h fun s t hst => hst.statuses_eq
  -- A position carries its sample, so the two lists of positions differ throughout; what is found
  -- there does not.
  have hpositions : ∀ {α : Type} (found : Position → Option α),
      (∀ s t : Sample, s.LooksLike t → ∀ p : Position, p.sample = s →
        found p = found { p with sample := t }) →
      a.positions.filterMap found = b.positions.filterMap found := by
    intro α found hfound
    rw [positions, positions, List.filterMap_flatMap, List.filterMap_flatMap, ← hfile]
    exact flatMap_eq_of_forall₂ h fun s t hst => hst.filterMap_positions (hfound s t hst)
  constructor
  case computed => exact h.imp fun s t hst r => (hst.findings r.key).status r
  case samples =>
    rw [summary, summary, List.forall₂_map_left_iff, List.forall₂_map_right_iff, ← hfile]
    refine h.imp fun s t hst => ⟨?_, fun status => ?_, ?_⟩
    · rw [s.describes_summary.sampleId, t.describes_summary.sampleId, hst.fields]
    · rw [s.tallies_summary.of_eq, t.tallies_summary.of_eq, hst.statuses_eq]
    · rw [s.describes_summary.status, t.describes_summary.status, hst.statuses_eq]
  case totals =>
    intro status
    rw [a.tallies_summary.of_eq, b.tallies_summary.of_eq, hstatuses]
  case status =>
    have ha : a.summary.status = _ := a.tallies_summary.status_eq
    have hb : b.summary.status = _ := b.tallies_summary.status_eq
    rw [ha, hb, hstatuses]
  case problems =>
    intro includeUnfailed
    rw [problems_scan, problems_scan]
    refine hpositions _ fun s t hst p hp => ?_
    subst hp
    rw [Position.problem?, Position.problem?, hst.stuck?_eq rfl, hst.fields]
    rfl
  case stuckWarnings =>
    intro includeUnfailed
    rw [stuckWarnings_scan, stuckWarnings_scan]
    refine hpositions _ fun s t hst p hp => ?_
    subst hp
    rw [Position.warning?, Position.warning?, hst.stuck?_eq rfl, hst.fields]

end Audits

/-! ### Deletions -/

section Deletions

variable {s t : Sample} {e : SampleEdit} {f : RuleFile} {impact : EditImpact}
  {retention : OrphanRetention}

theorem forall₂_mapIdx {α β : Type} {R : α → β → Prop} {as : List α} {g : Nat → α → β}
    (h : ∀ i a, as[i]? = some a → R a (g i a)) : List.Forall₂ R as (as.mapIdx g) := by
  induction as generalizing g with
  | nil => exact .nil
  | cons a rest ih =>
    rw [List.mapIdx_cons]
    exact .cons (h 0 a rfl) (ih fun i b hb => h (i + 1) b hb)

theorem forall₂_set {α : Type} {R : α → α → Prop} (hrefl : ∀ a, R a a) {a b : α} (h : R a b)
    (as : List α) (i : Nat) : List.Forall₂ R (as.set i a) (as.set i b) := by
  induction as generalizing i with
  | nil => exact .nil
  | cons c rest ih =>
    cases i with
    | zero => exact .cons h (List.forall₂_same.mpr fun d _ => hrefl d)
    | succ i => exact .cons (hrefl c) (ih i)

/-- An edit that announces no loss deletes no findings. -/
theorem SampleEdit.sameFindings_of_commit (h : e.commit f s impact retention = .ok t)
    (hloss : impact.dataWillBeLost = false) (key : String) :
    SameFindings (s.result? key) (t.result? key) := by
  have himpact : impact = e.impact f s := by
    by_contra hne
    rw [commit, if_neg (Ne.symm hne)] at h
    cases h
  rw [commit_eq himpact] at h
  obtain rfl := Except.ok.inj h
  show SameFindings (s.result? key) ((committedResults impact retention s).get? key)
  rw [get?_committedResults]
  split
  · next hgone =>
    cases hx : s.result? key with
    | none => exact .refl none
    | some x =>
      refine .of_unrecorded (eq_false_of_ne_true fun hdata => ?_)
      subst himpact
      have hmem := mem_lostKeys hgone.2 hx hdata
      have hnil : (e.impact f s).lostKeys = [] := by simpa [SampleEdit.impact] using hloss
      rw [hnil] at hmem
      cases hmem
  · exact .refl _

/-- A review that becomes pending is no finding. -/
theorem Sample.looksLike_reconcile {old new : RuleFile}
    (h : ∀ key x, s.result? key = some x → ¬new.contains key = true → x.hasRecordedData = false) :
    s.LooksLike (s.reconcile old new) := by
  refine ⟨rfl, fun key => ?_⟩
  rw [result?_reconcile]
  cases hx : s.result? key with
  | none => exact .refl none
  | some x =>
    rw [Option.bind_some]
    by_cases hnew : new.contains key = true
    · by_cases hu : old.Unsettles new key
      · rw [disposition_of_unsettles hu]
        exact .of_checks rfl
      · rw [disposition_of_not_unsettles hnew hu]
        exact .refl _
    · rw [disposition_of_not_contains hnew]
      exact .of_unrecorded (h key x hx hnew)

/-- Results without findings can be deleted unseen, and no others are deleted by edits and updates
that announce no loss: what these leave looks as if nothing had been deleted, whatever else the
edited sample becomes and whichever rule file it is seen under. -/
theorem Audit.deletions_unseen (a : Audit) :
    (∀ drop : Nat → String → Bool,
      (∀ (i : Nat) (s : Sample) (key : String) (x : RequirementResult), a.samples[i]? = some s →
        s.result? key = some x → drop i key = true → x.hasRecordedData = false) →
      a.SameView (a.without drop)) ∧
    (∀ (i : Nat) (s t u : Sample) (e : SampleEdit) (f : RuleFile) (impact : EditImpact)
      (retention : OrphanRetention), e.commit f s impact retention = .ok t →
      impact.dataWillBeLost = false →
      (a.setSampleAt i { u with results := s.results }).SameView
        (a.setSampleAt i { u with results := t.results })) ∧
    ∀ (new f : RuleFile) (report : ChangeReport) (next : Audit),
      a.applyRuleFile new report = .ok next → (a.changeReport new).dataWillBeLost = false →
      SameView { a with ruleFile := f } { next with ruleFile := f } := by
  refine ⟨fun drop hdrop => ?deletion, fun i s t u e f impact retention hcommit hloss => ?edit,
    fun new f report next happly hloss => ?update⟩
  case deletion =>
    exact sameView_of_looksLike rfl (forall₂_mapIdx fun i s hs =>
      s.looksLike_without fun key x hx => hdrop i s key x hs hx)
  case edit =>
    have hlooks :
        Sample.LooksLike { u with results := s.results } { u with results := t.results } :=
      .of_results (SampleEdit.sameFindings_of_commit hcommit hloss)
    exact sameView_of_looksLike rfl (forall₂_set Sample.LooksLike.refl hlooks a.samples i)
  case update =>
    obtain ⟨-, rfl⟩ := eq_reconcile_of_applyRuleFile happly
    refine sameView_of_looksLike rfl
      (List.forall₂_map_right_iff.mpr (List.forall₂_same.mpr fun s hs => ?_))
    refine Sample.looksLike_reconcile fun key x hx hnew => eq_false_of_ne_true fun hdata => ?_
    have hlost : (a.changeReport new).dataWillBeLost = true :=
      dataWillBeLost_changeReport.mpr ⟨s, hs, key, x, hx, hnew, hdata⟩
    rw [hloss] at hlost
    cases hlost

end Deletions

namespace Specimen

/-- The results in which nothing is recorded. -/
def unfilled (i : Nat) (key : String) : Bool :=
  (audit.samples[i]?.bind fun s => s.result? key).any fun x => !x.hasRecordedData

/-- A sample whose results were opened and never filled in. -/
def opened : Sample :=
  { id := "page", results := .ofList [("gone", {}), ("kept", { needsReview := true })] }

/-- On a sample about videos, only one of the two requirements is relevant. -/
def toVideo : SampleEdit := { selectedContentTypes := some ["video"] }

theorem unfilled_unseen :
    (audit.without unfilled).samples.map (·.results.keys) = [["kept"], []] ∧
    audit.SameView (audit.without unfilled) ∧
    ∃ edited next, toVideo.commit first opened (toVideo.impact first opened) .discard = .ok edited ∧
      (toVideo.impact first opened).dataWillBeLost = false ∧ edited.result? "kept" = none ∧
      (audit.setSampleAt 0 opened).SameView
        (audit.setSampleAt 0 { opened with results := edited.results }) ∧
      audit.applyRuleFile second (audit.changeReport second) = .ok next ∧
      (audit.changeReport second).dataWillBeLost = false ∧
      audit.SameView { next with ruleFile := first } := by
  have hunfilled : ∀ (i : Nat) (s : Sample) (key : String) (x : RequirementResult),
      audit.samples[i]? = some s → s.result? key = some x → unfilled i key = true →
      x.hasRecordedData = false := by
    intro i s key x hs hx hdrop
    simpa [unfilled, hs, hx] using hdrop
  obtain ⟨edited, hedited⟩ : ∃ edited,
      toVideo.commit first opened (toVideo.impact first opened) .discard = .ok edited := ⟨_, rfl⟩
  have hnone : edited.result? "kept" = none := by
    obtain rfl := Except.ok.inj hedited
    decide
  have hvalid : second.validate = .ok () := by decide
  have happly := Audit.applyRuleFile_changeReport (a := audit) hvalid
  obtain ⟨hdeletion, hedit, hupdate⟩ := Audit.deletions_unseen audit
  exact ⟨by decide, hdeletion unfilled hunfilled, edited, _, hedited, by decide, hnone,
    hedit 0 opened edited opened toVideo first _ .discard hedited (by decide), happly, by decide,
    hupdate second first _ _ happly (by decide)⟩

end Specimen

end Conformance
