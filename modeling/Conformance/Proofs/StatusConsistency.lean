import Conformance.Proofs.FingerprintContent
import Conformance.Proofs.Operation

/-! Stored statuses of settled results are right. Every write computes the status that it stores. An
update of the rule file computes none: it leaves a result settled only where the fingerprints of the
two definitions agree, and equal fingerprints mean equal statuses. -/

namespace Conformance

/-- Every settled result under a key that the rule file defines has its computed status. -/
def Sample.Consistent (f : RuleFile) (s : Sample) : Prop :=
  ∀ key r x, f.requirement? key = some r → s.result? key = some x → x.needsReview = false →
    x.status = r.status (some x)

theorem Sample.consistent_iff {f : RuleFile} {s : Sample} :
    s.Consistent f ↔ ∀ e ∈ s.results.entries, ∀ r ∈ f.requirement? e.1, e.2.needsReview = false →
      e.2.status = r.status (some e.2) := by
  constructor
  · intro h e he r hr
    exact h e.1 r e.2 hr (KeyedMap.mem_entries_iff.mp he)
  · intro h key r x hr hx
    exact h (key, x) (KeyedMap.mem_entries_iff.mpr hx) r hr

instance (f : RuleFile) (s : Sample) : Decidable (s.Consistent f) :=
  decidable_of_iff' _ Sample.consistent_iff

def Audit.Consistent (a : Audit) : Prop := ∀ s ∈ a.samples, s.Consistent a.ruleFile

instance (a : Audit) : Decidable a.Consistent :=
  inferInstanceAs (Decidable (∀ s ∈ a.samples, s.Consistent a.ruleFile))

/-- The hash tells old and new definitions of each key apart, and they fit into memory. -/
structure RuleFile.Separable (old new : RuleFile) : Prop where
  fits_old : ∀ key before, old.requirement? key = some before → before.Fits
  fits_new : ∀ key after, new.requirement? key = some after → after.Fits
  separates : ∀ key before after, old.requirement? key = some before →
    new.requirement? key = some after →
    Blake3.Separates (Fingerprint.requirementBytes before) (Fingerprint.requirementBytes after)

/-! ### What the computed status depends on -/

section Status

theorem Check.status_normal (c : Check) (x : Option CheckResult) :
    c.normal.status x = c.status x := by
  cases x with
  | none => rfl
  | some recorded =>
    rw [status, status, normal]
    simp only [List.map_map]
    rfl

/-- White space around the texts of checks and criteria does not matter to the status. -/
theorem Requirement.status_congr {r r' : Requirement}
    (h : r.checks.map Check.normal = r'.checks.map Check.normal) (x : Option RequirementResult) :
    r.status x = r'.status x := by
  have hstatuses : ∀ checks : List Check, checks.map (fun c =>
      c.status (x.bind fun x => x.checks.get? c.id)) = (checks.map Check.normal).map fun c =>
      c.status (x.bind fun x => x.checks.get? c.id) := by
    intro checks
    rw [List.map_map]
    refine List.map_congr_left fun c _ => ?_
    rw [Function.comp_apply, Check.status_normal]
    rfl
  have hempty : r.checks.isEmpty = r'.checks.isEmpty := by
    have hmap := congrArg List.isEmpty h
    rwa [List.isEmpty_map, List.isEmpty_map] at hmap
  rw [status, status, hempty, hstatuses r.checks, hstatuses r'.checks, h]

/-- Definitions with equal fingerprints give every result the same status. -/
theorem Requirement.status_of_fingerprint {r r' : Requirement} (hr : r.Fits) (hr' : r'.Fits)
    (hhash : Blake3.Separates (Fingerprint.requirementBytes r) (Fingerprint.requirementBytes r'))
    (h : Fingerprint.requirement r = Fingerprint.requirement r') (x : Option RequirementResult) :
    r.status x = r'.status x :=
  status_congr (Fingerprint.requirementBytes_inj hr hr' (hhash (Blake3.hex_inj h))).2 x

end Status

/-! ### Writes -/

section Writes

variable {r : Requirement} {x y : RequirementResult}

theorem Requirement.stamped_parts (x : RequirementResult) (previous : Option RequirementResult)
    (now : Timestamp) :
    (stamped x previous now).status = x.status ∧ (stamped x previous now).checks = x.checks := by
  rw [stamped_eq]
  exact ⟨rfl, rfl⟩

/-- A recomputed result keeps its right status through whatever leaves status and checks alone. -/
theorem Requirement.status_of_recomputed (x : RequirementResult)
    (hstatus : y.status = (r.recomputed x).status) (hchecks : y.checks = x.checks) :
    y.status = r.status (some y) := by
  rw [hstatus, recomputed, status, status]
  simp only [Option.bind_some, hchecks]

theorem Requirement.status_applyUpdate (previous : Option RequirementResult)
    (x : RequirementResult) (now : Timestamp) :
    (r.applyUpdate previous x now).status = r.status (some (r.applyUpdate previous x now)) := by
  obtain ⟨hstatus, hchecks⟩ := stamped_parts ((r.recomputed x).setLifecycle
    (((previous.map RequirementResult.lifecycle).getD .fresh).onRecorded
      (r.recomputed x).status)) previous now
  exact status_of_recomputed x hstatus hchecks

theorem Operation.status_written {op : Operation} {previous : Option RequirementResult}
    (h : op.written r previous = some y) : y.status = r.status (some y) := by
  cases op with
  | record i key findings now =>
    obtain rfl := Option.some.inj h
    exact Requirement.status_applyUpdate previous findings now
  | acknowledge i key =>
    rw [written, Requirement.acknowledge] at h
    obtain ⟨state, -, rfl⟩ := exists_of_map_toOption h
    exact Requirement.status_of_recomputed (previous.getD {}) rfl rfl
  | reaudit i key findings now =>
    rw [written, Requirement.reaudit] at h
    obtain ⟨state, -, rfl⟩ := exists_of_map_toOption h
    obtain ⟨hstatus, hchecks⟩ := Requirement.stamped_parts
      ((r.recomputed findings).setLifecycle state) (some (previous.getD {})) now
    exact Requirement.status_of_recomputed findings hstatus hchecks
  | resolve p now =>
    obtain rfl := Option.some.inj h
    exact Requirement.status_applyUpdate _ _ now
  | updateRuleFile new report => cases h
  | commitEdit i file edit impact retention => cases h

end Writes

/-! ### Every operation keeps audits consistent -/

section Preservation

variable {a b : Audit} {s t : Sample} {f : RuleFile}

theorem Sample.Consistent.insert {key : String} {r : Requirement} {y : RequirementResult}
    (h : s.Consistent f) (hr : f.requirement? key = some r) (hy : y.status = r.status (some y)) :
    Sample.Consistent f { s with results := s.results.insert key y } := by
  intro k r' x hr' hx hsettled
  simp only [result?, KeyedMap.get?_insert] at hx
  split at hx
  · next hk =>
    obtain rfl := Option.some.inj hx
    rw [hk, hr] at hr'
    obtain rfl := Option.some.inj hr'
    exact hy
  · exact h k r' x hr' hx hsettled

/-- An update flags every result whose definition it changes. -/
theorem Sample.Consistent.reconcile {new : RuleFile} (h : s.Consistent f)
    (hnew : f.Separable new) : (s.reconcile f new).Consistent new := by
  intro key after y hafter hy hsettled
  rw [result?_reconcile, Option.bind_eq_some_iff] at hy
  obtain ⟨x, hx, hy⟩ := hy
  by_cases hu : f.Unsettles new key
  · rw [disposition_of_unsettles hu] at hy
    obtain rfl := Option.some.inj hy
    cases hsettled
  · have hcontains := RuleFile.contains_of_requirement? hafter
    rw [disposition_of_not_unsettles hcontains hu] at hy
    obtain rfl := Option.some.inj hy
    -- The result was settled already, under a definition with the same fingerprint.
    obtain ⟨before, hbefore, hsame⟩ := RuleFile.exists_of_not_unsettles hafter hu
    calc x.status
        = before.status (some x) := h key before x hbefore hx hsettled
      _ = after.status (some x) :=
        Requirement.status_of_fingerprint (hnew.fits_old key before hbefore)
          (hnew.fits_new key after hafter) (hnew.separates key before after hbefore hafter)
          hsame (some x)

theorem Sample.Consistent.commit {file : RuleFile} {e : SampleEdit} {impact : EditImpact}
    {retention : OrphanRetention} (h : s.Consistent f)
    (ht : e.commit file s impact retention = .ok t) : t.Consistent f :=
  fun key r x hr hx hsettled => h key r x hr (SampleEdit.result?_of_commit ht hx) hsettled

theorem Audit.Consistent.setSampleAt {i : Nat} (h : a.Consistent) (ht : t.Consistent a.ruleFile) :
    (a.setSampleAt i t).Consistent := by
  intro u hu
  rcases List.mem_or_eq_of_mem_set hu with hu | rfl
  · exact h u hu
  · exact ht

/-- One operation. Only a new rule file needs a hash without collisions. -/
theorem Audit.Consistent.transition {op : Operation} (h : a.Consistent)
    (hhash : ∀ new, op.newRuleFile? = some new → a.ruleFile.Separable new)
    (hstep : Transition a op b) : b.Consistent := by
  cases hstep with
  | @update new report hop hvalid =>
    have hnew : a.ruleFile.Separable new := hhash new (by rw [hop]; rfl)
    intro u hu
    obtain ⟨s, hs, rfl⟩ := List.mem_map.mp hu
    exact (h s hs).reconcile hnew
  | @write i s key r y htarget hs hr hy =>
    have hsample : s.Consistent a.ruleFile := h s (List.mem_of_getElem? hs)
    exact h.setSampleAt (hsample.insert hr (Operation.status_written hy))
  | edit hop hs ht => exact h.setSampleAt ((h _ (List.mem_of_getElem? hs)).commit ht)

theorem Audit.ruleFile_of_transition {op : Operation} (hstep : Transition a op b) :
    b.ruleFile = (op.newRuleFile?).getD a.ruleFile := by
  cases hstep with
  | update hop hvalid =>
    rw [hop]
    rfl
  | write htarget hs hr hy =>
    rw [Operation.newRuleFile?_of_written hy]
    rfl
  | edit hop hs ht =>
    rw [hop]
    rfl

/-- A consistent audit stays consistent through any operations with any arguments, as long as the
hash tells the successive definitions of each key apart. -/
theorem Audit.consistent_of_run {ops : List Operation} (h : a.Consistent)
    (hhash : (a.ruleFile :: ops.filterMap Operation.newRuleFile?).IsChain RuleFile.Separable)
    (hrun : a.run ops = some b) : b.Consistent := by
  induction ops generalizing a with
  | nil =>
    obtain rfl := Option.some.inj hrun
    exact h
  | cons op rest ih =>
    rw [run, List.foldlM_cons, Option.bind_eq_bind, Option.bind_eq_some_iff] at hrun
    obtain ⟨next, hop, hrest⟩ := hrun
    -- The chain of rule files moves on only where the operation brings a new one.
    have hstep := transition_of_perform hop
    have hfile := ruleFile_of_transition hstep
    cases hnew : op.newRuleFile? with
    | none =>
      rw [List.filterMap_cons_none hnew] at hhash
      rw [hnew, Option.getD_none] at hfile
      refine ih (h.transition (fun new hn => ?_) hstep) (hfile ▸ hhash) hrest
      rw [hnew] at hn
      cases hn
    | some new =>
      rw [List.filterMap_cons_some hnew, List.isChain_cons_cons] at hhash
      rw [hnew, Option.getD_some] at hfile
      refine ih (h.transition (fun f hn => ?_) hstep) (hfile ▸ hhash.2) hrest
      rw [hnew] at hn
      obtain rfl := Option.some.inj hn
      exact hhash.1

theorem Specimen.separable : first.Separable second := by
  have hfirst : ∀ r ∈ first.requirements, r.Fits := by decide
  have hsecond : ∀ r ∈ second.requirements, r.Fits := by decide
  refine ⟨fun _ before h => hfirst before (RuleFile.mem_of_requirement? h),
    fun _ after h => hsecond after (RuleFile.mem_of_requirement? h), ?_⟩
  intro key before after hbefore hafter _
  have hkey : before.key = after.key :=
    (RuleFile.key_of_requirement? hbefore).trans (RuleFile.key_of_requirement? hafter).symm
  have hold : before ∈ [kept, gone] := RuleFile.mem_of_requirement? hbefore
  have hnew : after ∈ [{ kept with title := "Still kept" }, back] :=
    RuleFile.mem_of_requirement? hafter
  simp only [List.mem_cons, List.not_mem_nil, or_false] at hold hnew
  rcases hold with rfl | rfl <;> rcases hnew with rfl | rfl
  · exact Fingerprint.requirementBytes_congr rfl rfl
  all_goals exact absurd hkey (by decide)

/-- A review of the specimen is acknowledged, and then its rule file is updated. -/
theorem Specimen.consistent_after_update : audit.Consistent ∧ ∃ reviewed final,
    audit.perform (.acknowledge 0 "gone") = some reviewed ∧
    audit.run [.acknowledge 0 "gone", .updateRuleFile second (reviewed.changeReport second)] =
      some final ∧ final.Consistent := by
  have hconsistent : audit.Consistent := by decide
  have hvalid : second.validate = .ok () := by decide
  obtain ⟨reviewed, hreviewed⟩ := Option.isSome_iff_exists.mp
    (show (audit.perform (.acknowledge 0 "gone")).isSome = true by decide)
  have hrun : audit.run
      [.acknowledge 0 "gone", .updateRuleFile second (reviewed.changeReport second)] =
        some (reviewed.reconcile second) := by
    rw [Audit.run, List.foldlM_cons, hreviewed]
    simp only [Option.bind_eq_bind, Option.bind_some, List.foldlM_cons, List.foldlM_nil,
      Audit.perform, Audit.applyRuleFile_changeReport hvalid]
    rfl
  have hhash : (audit.ruleFile :: [Operation.acknowledge 0 "gone",
      .updateRuleFile second (reviewed.changeReport second)].filterMap
        Operation.newRuleFile?).IsChain RuleFile.Separable :=
    .cons_cons separable (.singleton second)
  exact ⟨hconsistent, reviewed, _, hreviewed, hrun, Audit.consistent_of_run hconsistent hhash hrun⟩

end Preservation

end Conformance
