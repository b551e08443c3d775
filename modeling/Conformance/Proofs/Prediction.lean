import Conformance.Proofs.Counting
import Conformance.Proofs.RuleFileUpdate

/-! The change report predicts the update. The report is made by walking the requirements of the two
rule files, the update by walking the stored results; for each stored result the report names what
becomes of it, and its counts are those of the results that it names. -/

namespace Conformance

namespace ChangeReport

/-- The report announces that the result of the sample under `key` will be deleted. -/
def Drops (report : ChangeReport) (sampleId key : String) : Prop :=
  key ∈ report.removed.map (·.key) ∨
    (sampleId, key) ∈ report.orphaned.map fun x => (x.sampleId, x.requirementKey)

/-- The report announces that the result of the sample under `key` will be flagged for review. -/
def Flags (report : ChangeReport) (sampleId key : String) : Prop :=
  key ∈ report.updated.map (·.key) ∨
    (sampleId, key) ∈ report.reappearing.map fun x => (x.sampleId, x.requirementKey)

instance (report : ChangeReport) (sampleId key : String) : Decidable (report.Drops sampleId key) :=
  inferInstanceAs (Decidable (_ ∨ _))

instance (report : ChangeReport) (sampleId key : String) : Decidable (report.Flags sampleId key) :=
  inferInstanceAs (Decidable (_ ∨ _))

/-- What the report promises about the audits before and after the update. -/
structure Predicts (report : ChangeReport) (before after : Audit) : Prop where
  samples_length : after.samples.length = before.samples.length
  absent_iff : ∀ (i : Nat) (s t : Sample), before.samples[i]? = some s →
    after.samples[i]? = some t → ∀ key x, s.result? key = some x →
      (t.result? key = none ↔ report.Drops s.id key)
  flagged : ∀ (i : Nat) (s t : Sample), before.samples[i]? = some s →
    after.samples[i]? = some t → ∀ key x, s.result? key = some x →
      ¬report.Drops s.id key → report.Flags s.id key →
        t.result? key = some { x with needsReview := true }
  carried : ∀ (i : Nat) (s t : Sample), before.samples[i]? = some s →
    after.samples[i]? = some t → ∀ key x, s.result? key = some x →
      ¬report.Drops s.id key → ¬report.Flags s.id key → t.result? key = some x
  flaggedResultCount : report.flaggedResultCount =
    (before.samples.map fun s => s.results.entries.countP fun e =>
      decide (¬report.Drops s.id e.1 ∧ report.Flags s.id e.1)).sum
  dataWillBeLost : report.dataWillBeLost = true ↔
    ∃ (i : Nat) (s t : Sample) (key : String) (x : RequirementResult),
      before.samples[i]? = some s ∧ after.samples[i]? = some t ∧
      s.result? key = some x ∧ t.result? key = none ∧ x.hasRecordedData = true
  of_isEmpty : report.isEmpty = true →
    after.samples = before.samples ∧ after.tombstones = before.tombstones

end ChangeReport

/-! ### What the report names -/

section Names

variable {a : Audit} {new : RuleFile} {key : String}

theorem Audit.keys_added :
    (a.changeReport new).added.map (·.key) = new.keys.filter (!a.ruleFile.contains ·) := by
  simp only [changeReport, RuleFile.keys, List.map_map, List.filter_map]
  rfl

theorem Audit.removed_changeReport : (a.changeReport new).removed =
    (a.ruleFile.requirements.filter fun r => !new.contains r.key).map fun r =>
      { key := r.key
        id := r.displayId
        title := r.title
        affectedSampleIds := a.samplesWithRecordedResult r.key } := by
  rw [← List.filterMap_eq_map, List.filterMap_filter]
  refine List.filterMap_congr fun r _ => ?_
  by_cases hnew : new.contains r.key = true
  · simp [removedEntry, hnew]
  · simp [removedEntry, hnew]

theorem Audit.keys_removed :
    (a.changeReport new).removed.map (·.key) = a.ruleFile.keys.filter (!new.contains ·) := by
  rw [removed_changeReport, RuleFile.keys, List.map_map, List.filter_map]
  rfl

theorem Audit.mem_added_keys : key ∈ (a.changeReport new).added.map (·.key) ↔
    ¬a.ruleFile.contains key = true ∧ new.contains key = true := by
  rw [keys_added, List.mem_filter, Bool.not_eq_true', ← Bool.not_eq_true, RuleFile.contains_iff,
    RuleFile.contains_iff, and_comm]

theorem Audit.mem_removed_keys :
    key ∈ (a.changeReport new).removed.map (·.key) ↔
      a.ruleFile.contains key = true ∧ ¬new.contains key = true := by
  rw [keys_removed, List.mem_filter, Bool.not_eq_true', ← Bool.not_eq_true, RuleFile.contains_iff,
    RuleFile.contains_iff]

/-- An entry for an updated requirement stands for a definition that changed, says what changed in
it, and names the samples with a result under its key. -/
theorem Audit.updatedEntry_eq_some {old : Requirement} {entry : UpdatedRequirement}
    (h : a.updatedEntry new old = some entry) :
    entry.key = old.key ∧ entry.affectedSampleIds = a.samplesWithResult entry.key ∧
      ∃ r, new.requirement? old.key = some r ∧
        Fingerprint.requirement old ≠ Fingerprint.requirement r ∧
        entry.aspects = old.changeAspects r := by
  simp only [updatedEntry, Option.bind_eq_bind, Option.bind_eq_some_iff] at h
  obtain ⟨r, hr, h⟩ := h
  split at h
  · cases h
  · next hne =>
    cases h
    have hkey : r.key = old.key := RuleFile.key_of_requirement? hr
    exact ⟨hkey, by rw [hkey], r, hr, hne, rfl⟩

theorem Audit.mem_updated_keys (hkeys : a.ruleFile.keys.Nodup) :
    key ∈ (a.changeReport new).updated.map (·.key) ↔ a.ruleFile.Redefines new key := by
  simp only [changeReport, List.mem_map, List.mem_filterMap]
  constructor
  · rintro ⟨entry, ⟨old, hold, hentry⟩, rfl⟩
    obtain ⟨hkey, -, r, hr, hne, -⟩ := updatedEntry_eq_some hentry
    rw [hkey]
    exact ⟨old, r, RuleFile.requirement?_of_mem hkeys hold, hr, hne⟩
  · rintro ⟨old, r, hold, hr, hne⟩
    obtain rfl : old.key = key := RuleFile.key_of_requirement? hold
    have hsome : (a.updatedEntry new old).isSome := by
      rw [updatedEntry, hr, Option.bind_eq_bind, Option.bind_some, if_neg hne]
      rfl
    obtain ⟨entry, hentry⟩ := Option.isSome_iff_exists.mp hsome
    exact ⟨entry, ⟨old, RuleFile.mem_of_requirement? hold, hentry⟩,
      (updatedEntry_eq_some hentry).1⟩

theorem Audit.updated_keys_sublist :
    ((a.changeReport new).updated.map (·.key)).Sublist a.ruleFile.keys := by
  simp only [changeReport, RuleFile.keys]
  induction a.ruleFile.requirements with
  | nil => simp
  | cons old rest ih =>
    cases hentry : a.updatedEntry new old with
    | none =>
      rw [List.filterMap_cons_none hentry, List.map_cons]
      exact ih.cons _
    | some entry =>
      rw [List.filterMap_cons_some hentry, List.map_cons, List.map_cons,
        (updatedEntry_eq_some hentry).1]
      exact ih.cons_cons _

theorem Audit.updated_keys_nodup (hkeys : a.ruleFile.keys.Nodup) :
    ((a.changeReport new).updated.map (·.key)).Nodup :=
  hkeys.sublist updated_keys_sublist

theorem Audit.mem_unmatchedResults {x : ResultRef} :
    x ∈ a.unmatchedResults ↔ ∃ s ∈ a.samples, ∃ key y, s.result? key = some y ∧
      ¬a.ruleFile.contains key = true ∧ x = ⟨s.id, key, y.hasRecordedData⟩ := by
  simp only [unmatchedResults, List.mem_flatMap, List.mem_map, List.mem_filter,
    Bool.not_eq_true']
  constructor
  · rintro ⟨s, hs, ⟨k, y⟩, ⟨hmem, hk⟩, rfl⟩
    exact ⟨s, hs, k, y, KeyedMap.mem_entries_iff.mp hmem, by simp [hk], rfl⟩
  · rintro ⟨s, hs, k, y, hget, hk, rfl⟩
    exact ⟨s, hs, (k, y), ⟨KeyedMap.mem_entries_iff.mpr hget, by simpa using hk⟩, rfl⟩

/-- The results named as orphaned or reappearing: those under keys unknown to the old file, and
known or not to the new one. -/
theorem Audit.mem_unmatched_filter (keep : String → Bool) {sampleId : String} :
    (sampleId, key) ∈ (a.unmatchedResults.filter fun x => keep x.requirementKey).map
        (fun x => (x.sampleId, x.requirementKey)) ↔
      (∃ s ∈ a.samples, s.id = sampleId ∧ (s.result? key).isSome) ∧
        ¬a.ruleFile.contains key = true ∧ keep key = true := by
  simp only [List.mem_map, List.mem_filter, mem_unmatchedResults, Prod.mk.injEq]
  constructor
  · rintro ⟨_, ⟨⟨s, hs, k, y, hget, hk, rfl⟩, hkeep⟩, rfl, rfl⟩
    exact ⟨⟨s, hs, rfl, Option.isSome_of_eq_some hget⟩, hk, hkeep⟩
  · rintro ⟨⟨s, hs, rfl, hsome⟩, hk, hkeep⟩
    obtain ⟨y, hget⟩ := Option.isSome_iff_exists.mp hsome
    exact ⟨_, ⟨⟨s, hs, key, y, hget, hk, rfl⟩, hkeep⟩, rfl, rfl⟩

end Names

section Stored

variable {a : Audit} {new : RuleFile} {s : Sample} {key : String} {x : RequirementResult}

/-- The report says of a stored result that it will be deleted exactly if the new file does not
define its key. -/
theorem Audit.changeReport_drops_iff (hs : s ∈ a.samples) (hget : s.result? key = some x) :
    (a.changeReport new).Drops s.id key ↔ ¬new.contains key = true := by
  rw [ChangeReport.Drops, mem_removed_keys]
  have horphan : (s.id, key) ∈ (a.changeReport new).orphaned.map
      (fun x => (x.sampleId, x.requirementKey)) ↔ _ :=
    mem_unmatched_filter fun k => !new.contains k
  rw [horphan]
  have hstored : ∃ t ∈ a.samples, t.id = s.id ∧ (t.result? key).isSome :=
    ⟨s, hs, rfl, Option.isSome_of_eq_some hget⟩
  by_cases hold : a.ruleFile.contains key = true <;> simp [hold, hstored]

/-- The report says of a stored result that it will be flagged exactly if the new file gives its key
another meaning. -/
theorem Audit.changeReport_flags_iff (hkeys : a.ruleFile.keys.Nodup) (hs : s ∈ a.samples)
    (hget : s.result? key = some x) :
    (a.changeReport new).Flags s.id key ↔ a.ruleFile.Unsettles new key := by
  rw [ChangeReport.Flags, mem_updated_keys hkeys]
  have hreappear : (s.id, key) ∈ (a.changeReport new).reappearing.map
      (fun x => (x.sampleId, x.requirementKey)) ↔ _ :=
    mem_unmatched_filter fun k => new.contains k
  rw [hreappear]
  have hstored : ∃ t ∈ a.samples, t.id = s.id ∧ (t.result? key).isSome :=
    ⟨s, hs, rfl, Option.isSome_of_eq_some hget⟩
  constructor
  · rintro (hdef | ⟨-, hold, hnew⟩)
    · exact hdef.unsettles
    · exact ⟨hnew, fun hc => absurd hc hold⟩
  · rintro ⟨hnew, hdef⟩
    by_cases hold : a.ruleFile.contains key = true
    · exact .inl (hdef hold)
    · exact .inr ⟨hstored, hold, hnew⟩

end Stored

/-! ### Counts -/

section Counts

variable {a : Audit} {new : RuleFile}

theorem Sample.countP_entries (s : Sample) (p : String → Bool) :
    s.results.entries.countP (fun e => p e.1) = s.results.keys.countP p := by
  rw [KeyedMap.keys, List.countP_map]
  rfl

/-- The samples that updated requirements name, counted over the stored results. -/
theorem Audit.length_affected (hkeys : a.ruleFile.keys.Nodup) :
    ((a.changeReport new).updated.flatMap (·.affectedSampleIds)).length =
      (a.samples.map fun s => s.results.keys.countP fun key =>
        decide (key ∈ (a.changeReport new).updated.map (·.key))).sum := by
  have haffected : ∀ entry ∈ (a.changeReport new).updated, entry.affectedSampleIds.length =
      a.samples.countP fun s => decide (entry.key ∈ s.results.keys) := by
    intro entry hentry
    simp only [changeReport, List.mem_filterMap] at hentry
    obtain ⟨old, -, hold⟩ := hentry
    rw [(updatedEntry_eq_some hold).2.1, samplesWithResult, List.length_map,
      List.countP_eq_length_filter]
    simp only [Sample.mem_keys_iff, Bool.decide_eq_true]
  calc ((a.changeReport new).updated.flatMap (·.affectedSampleIds)).length
      = ((a.changeReport new).updated.map fun entry =>
          a.samples.countP fun s => decide (entry.key ∈ s.results.keys)).sum := by
        rw [List.length_flatMap, List.map_congr_left haffected]
    _ = (((a.changeReport new).updated.map (·.key)).map fun key =>
          a.samples.countP fun s => decide (key ∈ s.results.keys)).sum := by
        rw [List.map_map]
        rfl
    _ = (a.samples.map fun s => ((a.changeReport new).updated.map (·.key)).countP fun key =>
          decide (key ∈ s.results.keys)).sum :=
        Counting.sum_countP_comm _ _ _
    _ = _ := by
        congr 1
        refine List.map_congr_left fun s _ => ?_
        exact Counting.countP_mem_comm (updated_keys_nodup hkeys) s.results.keys_nodup

theorem Audit.length_reappearing :
    (a.changeReport new).reappearing.length =
      (a.samples.map fun s => s.results.keys.countP fun key =>
        !a.ruleFile.contains key && new.contains key).sum := by
  simp only [changeReport, unmatchedResults, List.filter_flatMap, List.length_flatMap]
  congr 1
  refine List.map_congr_left fun s _ => ?_
  rw [← Sample.countP_entries, List.filter_map, List.length_map, List.filter_filter,
    List.countP_eq_length_filter]
  simp only [Function.comp_def, Bool.and_comm]

/-- The report counts the stored results that it names as flagged and not as deleted. -/
theorem Audit.flaggedResultCount_changeReport (hkeys : a.ruleFile.keys.Nodup) :
    (a.changeReport new).flaggedResultCount =
      (a.samples.map fun s => s.results.entries.countP fun e =>
        decide (¬(a.changeReport new).Drops s.id e.1 ∧
          (a.changeReport new).Flags s.id e.1)).sum := by
  rw [ChangeReport.flaggedResultCount, length_affected hkeys, length_reappearing,
    ← List.sum_map_add]
  congr 1
  refine List.map_congr_left fun s hs => ?_
  rw [← Sample.countP_entries, ← Sample.countP_entries]
  refine (Counting.countP_eq_add fun e he => ?_).symm
  have hget : s.result? e.1 = some e.2 := KeyedMap.mem_entries_iff.mp he
  simp only [decide_eq_true_eq, changeReport_drops_iff hs hget,
    changeReport_flags_iff hkeys hs hget, mem_updated_keys hkeys, Bool.and_eq_true,
    Bool.not_eq_true', not_not]
  constructor
  · constructor
    · rintro ⟨hnew, -, hdef⟩
      cases hold : a.ruleFile.contains e.1 with
      | true => exact .inl (hdef hold)
      | false => exact .inr ⟨rfl, hnew⟩
    · rintro (hdef | ⟨hold, hnew⟩)
      · exact ⟨hdef.contains_new, hdef.unsettles⟩
      · exact ⟨hnew, hnew, fun hc => by simp [hold] at hc⟩
  · rintro ⟨hdef, hold, -⟩
    simp [hdef.contains_old] at hold

/-- The report warns of a loss exactly if some result with recorded data stands under a key that the
new file does not define. -/
theorem Audit.dataWillBeLost_changeReport :
    (a.changeReport new).dataWillBeLost = true ↔ ∃ s ∈ a.samples, ∃ key x,
      s.result? key = some x ∧ ¬new.contains key = true ∧ x.hasRecordedData = true := by
  simp only [ChangeReport.dataWillBeLost, Bool.or_eq_true, List.any_eq_true]
  constructor
  · rintro (⟨entry, hentry, hne⟩ | ⟨x, hx, hrecorded⟩)
    · simp only [changeReport, List.mem_filterMap, removedEntry] at hentry
      obtain ⟨old, -, hold⟩ := hentry
      split at hold
      · cases hold
      · next hnew =>
        cases hold
        obtain ⟨id, hid⟩ := List.exists_mem_of_ne_nil _ (by simpa using hne)
        simp only [samplesWithRecordedResult, List.mem_map, List.mem_filter,
          Sample.hasRecordedResult, Option.any_eq_true] at hid
        obtain ⟨s, ⟨hs, x, hget, hrecorded⟩, -⟩ := hid
        exact ⟨s, hs, old.key, x, hget, hnew, hrecorded⟩
    · simp only [changeReport, List.mem_filter, mem_unmatchedResults] at hx
      obtain ⟨⟨s, hs, key, y, hget, -, rfl⟩, hnew⟩ := hx
      exact ⟨s, hs, key, y, hget, by simpa using hnew, hrecorded⟩
  · rintro ⟨s, hs, key, x, hget, hnew, hrecorded⟩
    by_cases hold : a.ruleFile.contains key = true
    · obtain ⟨old, hold⟩ := RuleFile.exists_requirement? hold
      obtain rfl : old.key = key := RuleFile.key_of_requirement? hold
      refine .inl ⟨_, List.mem_filterMap.mpr ⟨old, RuleFile.mem_of_requirement? hold,
        if_neg hnew⟩, ?_⟩
      have hid : s.id ∈ a.samplesWithRecordedResult old.key := by
        refine List.mem_map_of_mem (List.mem_filter.mpr ⟨hs, ?_⟩)
        simp [Sample.hasRecordedResult, hget, hrecorded]
      simpa using List.ne_nil_of_mem hid
    · refine .inr ⟨⟨s.id, key, x.hasRecordedData⟩, ?_, hrecorded⟩
      refine List.mem_filter.mpr ⟨mem_unmatchedResults.mpr ⟨s, hs, key, x, hget, hold, rfl⟩, ?_⟩
      simpa using hnew

end Counts

section Positions

variable {a : Audit} {new : RuleFile} {i : Nat} {s t : Sample}

theorem Audit.getElem?_reconcile (hs : a.samples[i]? = some s) :
    (a.reconcile new).samples[i]? = some (s.reconcile a.ruleFile new) := by
  simp only [reconcile, List.getElem?_map, hs, Option.map_some]

theorem Audit.eq_reconcile_of_getElem? (hs : a.samples[i]? = some s)
    (ht : (a.reconcile new).samples[i]? = some t) : t = s.reconcile a.ruleFile new := by
  rw [getElem?_reconcile hs] at ht
  exact (Option.some.inj ht).symm

theorem Sample.result?_reconcile_eq_none {old : RuleFile} {key : String} {x : RequirementResult}
    (hget : s.result? key = some x) :
    (s.reconcile old new).result? key = none ↔ ¬new.contains key = true := by
  rw [result?_reconcile, hget, Option.bind_some, ← Option.not_isSome_iff_eq_none,
    Disposition.isSome_apply]

/-- The report warns of a loss exactly if the update deletes a result with recorded data. -/
theorem Audit.dataWillBeLost_iff : (a.changeReport new).dataWillBeLost = true ↔
    ∃ (i : Nat) (s t : Sample) (key : String) (x : RequirementResult),
      a.samples[i]? = some s ∧ (a.reconcile new).samples[i]? = some t ∧
      s.result? key = some x ∧ t.result? key = none ∧ x.hasRecordedData = true := by
  rw [dataWillBeLost_changeReport]
  constructor
  · rintro ⟨s, hmem, key, x, hget, hlost, hrecorded⟩
    obtain ⟨i, hi⟩ := List.getElem?_of_mem hmem
    exact ⟨i, s, s.reconcile a.ruleFile new, key, x, hi, getElem?_reconcile hi, hget,
      (Sample.result?_reconcile_eq_none hget).mpr hlost, hrecorded⟩
  · rintro ⟨i, s, t, key, x, hs, ht, hget, hnone, hrecorded⟩
    rw [eq_reconcile_of_getElem? hs ht, Sample.result?_reconcile_eq_none hget] at hnone
    exact ⟨s, List.mem_of_getElem? hs, key, x, hget, hnone, hrecorded⟩

end Positions

/-! ### The prediction -/

section Prediction

variable {a : Audit} {new : RuleFile}

theorem ChangeReport.names_nothing {report : ChangeReport} (h : report.isEmpty = true)
    (sampleId key : String) : ¬report.Drops sampleId key ∧ ¬report.Flags sampleId key := by
  simp only [isEmpty, Bool.and_eq_true, List.isEmpty_iff] at h
  obtain ⟨⟨⟨⟨-, hupdated⟩, hremoved⟩, horphaned⟩, hreappearing⟩ := h
  simp [Drops, Flags, hupdated, hremoved, horphaned, hreappearing]

theorem Sample.reconcile_eq_self {old : RuleFile} {s : Sample}
    (h : ∀ key x, s.result? key = some x → new.contains key = true ∧ ¬old.Unsettles new key) :
    s.reconcile old new = s ∧ s.tombstones old new = [] := by
  constructor
  · have hresults : (s.results.filterMap fun key x => (disposition old new key).apply x) =
        s.results := by
      refine KeyedMap.filterMap_eq_self fun key x hget => ?_
      obtain ⟨hnew, hsame⟩ := h key x hget
      rw [disposition_of_not_unsettles hnew hsame]
      rfl
    rw [reconcile, hresults]
  · rw [tombstones_eq, List.map_eq_nil_iff, List.filter_eq_nil_iff]
    intro key hkey
    obtain ⟨x, hget⟩ := Option.isSome_iff_exists.mp (mem_keys_iff.mp hkey)
    simp [(h key x hget).1]

theorem Audit.reconcile_of_isEmpty (hkeys : a.ruleFile.keys.Nodup)
    (h : (a.changeReport new).isEmpty = true) :
    (a.reconcile new).samples = a.samples ∧ (a.reconcile new).tombstones = a.tombstones := by
  have hstay : ∀ s ∈ a.samples, s.reconcile a.ruleFile new = s ∧
      s.tombstones a.ruleFile new = [] := by
    intro s hs
    refine Sample.reconcile_eq_self fun key x hget => ?_
    obtain ⟨hdrops, hflags⟩ := ChangeReport.names_nothing h s.id key
    rw [changeReport_drops_iff hs hget, not_not] at hdrops
    rw [changeReport_flags_iff hkeys hs hget] at hflags
    exact ⟨hdrops, hflags⟩
  constructor
  · exact (List.map_congr_left fun s hs => (hstay s hs).1).trans (List.map_id' _)
  · simp only [reconcile, List.append_right_eq_self, List.flatMap_eq_nil_iff]
    exact fun s hs => (hstay s hs).2

/-- For every stored result, what the report says of it is what the update does with it. -/
theorem Audit.changeReport_predicts (hkeys : a.ruleFile.keys.Nodup) (hnew : new.validate = .ok ()) :
    ∃ next, a.applyRuleFile new (a.changeReport new) = .ok next ∧
      (a.changeReport new).Predicts a next := by
  refine ⟨a.reconcile new, applyRuleFile_changeReport hnew, ?_⟩
  constructor
  case samples_length => simp [reconcile]
  case absent_iff =>
    intro i s t hs ht key x hget
    rw [changeReport_drops_iff (List.mem_of_getElem? hs) hget, eq_reconcile_of_getElem? hs ht,
      Sample.result?_reconcile_eq_none hget]
  case flagged =>
    intro i s t hs ht key x hget hdrops hflags
    rw [changeReport_flags_iff hkeys (List.mem_of_getElem? hs) hget] at hflags
    rw [eq_reconcile_of_getElem? hs ht, Sample.result?_reconcile, hget, Option.bind_some,
      disposition_of_unsettles hflags]
    rfl
  case carried =>
    intro i s t hs ht key x hget hdrops hflags
    have hmem : s ∈ a.samples := List.mem_of_getElem? hs
    rw [changeReport_drops_iff hmem hget, not_not] at hdrops
    rw [changeReport_flags_iff hkeys hmem hget] at hflags
    rw [eq_reconcile_of_getElem? hs ht, Sample.result?_reconcile, hget, Option.bind_some,
      disposition_of_not_unsettles hdrops hflags]
    rfl
  case flaggedResultCount => exact flaggedResultCount_changeReport hkeys
  case dataWillBeLost => exact dataWillBeLost_iff
  case of_isEmpty => exact reconcile_of_isEmpty hkeys

/-- The specimen's update, which drops, flags and carries results. -/
theorem Specimen.report_predicts_second :
    audit.ruleFile.keys.Nodup ∧ second.validate = .ok () ∧
      ∃ next, audit.applyRuleFile second (audit.changeReport second) = .ok next ∧
        (audit.changeReport second).Predicts audit next := by
  have hkeys : audit.ruleFile.keys.Nodup := by decide
  have hnew : second.validate = .ok () := by decide
  exact ⟨hkeys, hnew, Audit.changeReport_predicts hkeys hnew⟩

end Prediction

end Conformance
