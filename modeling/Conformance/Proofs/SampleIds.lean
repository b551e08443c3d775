import Conformance.Proofs.LoadedKeys
import Conformance.Proofs.Resolution

/-! The ids of loaded samples. A sample without an id of its own gets one from its position, and
nobody looks whether another sample has that id already. Where the own ids are distinct, that is the
only way in which two loaded samples come to share an id. Distinct ids lead to every sample. -/

namespace Conformance

/-! ### Ids from positions -/

section Positions

variable {α : Type} {own : α → Option String} {fallback : Nat → String}

/-- Items with an id of their own or none, each with its position. Where the own ids are distinct,
filling in the missing ones by position keeps them so exactly if none of those is taken. -/
theorem nodup_getD_iff {entries : List (α × Nat)} (hfallback : Function.Injective fallback)
    (hpositions : (entries.map (·.2)).Nodup) (hown : (entries.filterMap (own ·.1)).Nodup) :
    (entries.map fun e => (own e.1).getD (fallback e.2)).Nodup ↔
      ∀ item index, (item, index) ∈ entries → own item = none →
        fallback index ∉ entries.filterMap (own ·.1) := by
  constructor
  · intro hnodup item index hmem hnone htaken
    obtain ⟨⟨taker, other⟩, hmem', hid⟩ := List.mem_filterMap.mp htaken
    have hsame := List.inj_on_of_nodup_map hnodup hmem' hmem (by simp only [hid, hnone]; rfl)
    cases hsame
    cases hnone.symm.trans hid
  · intro hfree
    have htaken : ∀ {item other : α} {index position : Nat} {id : String},
        (item, index) ∈ entries → own item = none → (other, position) ∈ entries →
        own other = some id → fallback index ≠ id := by
      rintro item other index position _ hmem hnone hmem' hsome rfl
      exact hfree item index hmem hnone (List.mem_filterMap.mpr ⟨_, hmem', hsome⟩)
    rw [List.nodup_iff_pairwise_ne, List.pairwise_map] at hpositions ⊢
    rw [List.nodup_iff_pairwise_ne, List.pairwise_filterMap] at hown
    refine (hpositions.and hown).imp_of_mem ?_
    rintro ⟨item, index⟩ ⟨item', index'⟩ he he' ⟨hindex, hne⟩ heq
    rcases hid : own item with _ | id <;> rcases hid' : own item' with _ | id' <;>
      simp only [hid, hid', Option.getD_none, Option.getD_some] at heq
    · exact hindex (hfallback heq)
    · exact htaken he hid he' hid' heq
    · exact htaken he' hid' he hid heq.symm
    · exact hne id hid id' hid' heq

/-- Items at their places in a list, of which some are skipped that have no id of their own. -/
theorem nodup_positional_iff {items : List α} {keep : α → Bool}
    (hfallback : Function.Injective fallback) (hskip : ∀ item, own item ≠ none → keep item = true)
    (hown : (items.filterMap own).Nodup) :
    ((items.zipIdx.filter (keep ·.1)).map fun e => (own e.1).getD (fallback e.2)).Nodup ↔
      ∀ index item, items[index]? = some item → keep item = true → own item = none →
        fallback index ∉ items.filterMap own := by
  have howns : (items.zipIdx.filter (keep ·.1)).filterMap (own ·.1) = items.filterMap own := by
    have hkept : ∀ e ∈ items.zipIdx, (if keep e.1 then own e.1 else none) = own e.1 := by
      intro e _
      by_cases hnone : own e.1 = none
      · rw [hnone, ite_self]
      · rw [if_pos (hskip e.1 hnone)]
    calc (items.zipIdx.filter (keep ·.1)).filterMap (own ·.1)
        = items.zipIdx.filterMap (own ·.1) := by
          rw [List.filterMap_filter, List.filterMap_congr hkept]
      _ = (items.zipIdx.map Prod.fst).filterMap own := by
          rw [List.filterMap_map]
          rfl
      _ = items.filterMap own := by rw [List.zipIdx_map_fst]
  have hpositions : ((items.zipIdx.filter (keep ·.1)).map (·.2)).Nodup := by
    refine List.Nodup.sublist (List.filter_sublist.map _) ?_
    rw [List.zipIdx_map_snd]
    exact List.nodup_range'
  rw [nodup_getD_iff hfallback hpositions (howns.symm ▸ hown), howns]
  simp only [List.mem_filter, List.mem_zipIdx_iff_getElem?, and_imp]
  exact forall_comm

end Positions

/-! ### Reaching samples by their ids -/

namespace Audit

/-- The id of the sample at a position leads to it: it is the one that is looked up, and problems
reported under its id are solved in its results. -/
structure Reaches (a : Audit) (i : Nat) (s : Sample) : Prop where
  found : a.sample? s.id = some s
  solved : ∀ p now r, p.sampleId = s.id → a.ruleFile.requirement? p.requirementKey = some r →
    a.resolve p now = .ok (a.setSampleAt i
      { s with
        results := s.results.insert p.requirementKey
          (r.markSolved ((s.result? p.requirementKey).getD {}) p.checkId p.criterionId now) })

theorem reaches_of_getElem? {a : Audit} {i : Nat} {s : Sample}
    (hids : (a.samples.map (·.id)).Nodup) (hs : a.samples[i]? = some s) : a.Reaches i s := by
  have hfound : a.sample? s.id = some s := sample?_of_mem hids (List.mem_of_getElem? hs)
  refine ⟨hfound, fun p now r hp hr => ?_⟩
  obtain ⟨k, -, hk, hset⟩ := replaceSample_eq_set hfound
  have hlt : k < a.samples.length := (List.getElem?_eq_some_iff.mp hk).1
  -- The lookup names no position, but a sample with an id of its own stands at one only.
  have hposition : k = i :=
    (List.getElem?_inj hlt (List.Nodup.of_map _ hids)).mp (hk.trans hs.symm)
  simp only [resolve, hp, hr, hfound, storeResult, setSample, hset, hposition]
  rfl

end Audit

/-! ### Loaded samples -/

namespace Loading

/-- The id that a sample gets from its position. -/
def numberedSampleId (index : Nat) : String := sampleIdPrefix ++ toString (index + 1)

/-- The id that a stored sample has of its own. -/
def ownId? : Json → Option String
  | .object o => filledMember? o "id"
  | _ => none

/-- The values that are read as the samples of a stored audit. -/
def storedSamples (j : Json) : List Json :=
  match j.member? "samples" with
  | some (.array items) => items
  | _ => []

theorem numberedSampleId_injective : Function.Injective numberedSampleId := by
  intro m n h
  rw [numberedSampleId, numberedSampleId, String.append_right_inj] at h
  exact Nat.succ_injective (Text.toString_injective h)

theorem id_sampleAt (index : Nat) (item : Json) :
    (sampleAt index item).id = (ownId? item).getD (numberedSampleId index) := by
  cases item with
  | object o =>
    have hid : (sample (.object o)).id = ((o.lookup "id").bind asText?).getD "" := rfl
    rw [sampleAt, ownId?, filledMember?, hid]
    cases hfound : (o.lookup "id").bind asText? with
    | none => rfl
    | some id =>
      rw [hfound, Option.getD_some] at hid
      by_cases hblank : Text.isBlank id = true
      · simp [hblank, Option.filter_some, numberedSampleId]
      · simp [hblank, Option.filter_some, hid]
  | _ => rfl

section Audit

variable {j : Json} {a : Audit}

theorem samples_of_audit (h : audit j = .ok a) :
    a.samples = (storedSamples j).zipIdx.map fun x => sampleAt x.2 x.1 := by
  obtain ⟨f, hf, -⟩ := exists_decoded_of_audit h
  rw [audit_of_decode hf] at h
  obtain rfl := Except.ok.inj h
  show samples (j.member? "samples") = _
  rw [samples.eq_def, storedSamples]
  cases j.member? "samples" with
  | none => rfl
  | some items => cases items <;> rfl

/-- Where the own ids of the stored samples are distinct, all ids are exactly if no sample without
one gets from its position the own id of another. -/
theorem sampleIds_nodup_iff (h : audit j = .ok a)
    (hown : ((storedSamples j).filterMap ownId?).Nodup) : (a.samples.map (·.id)).Nodup ↔
      ∀ index item, (storedSamples j)[index]? = some item → ownId? item = none →
        numberedSampleId index ∉ (storedSamples j).filterMap ownId? := by
  have hids : a.samples.map (·.id) = ((storedSamples j).zipIdx.filter fun _ => true).map fun e =>
      (ownId? e.1).getD (numberedSampleId e.2) := by
    rw [samples_of_audit h, List.map_map, List.filter_true]
    exact List.map_congr_left fun x _ => id_sampleAt x.2 x.1
  -- No stored sample is skipped.
  have hfree := @nodup_positional_iff _ ownId? numberedSampleId (storedSamples j) (fun _ => true)
    numberedSampleId_injective (fun _ _ => rfl) hown
  simpa only [hids, forall_true_left] using hfree

/-- Where the own ids of the stored samples are distinct, the ids of the loaded samples are exactly if
no sample without one gets from its position the own id of another. Then every sample is reached by
its id. -/
theorem reaches_of_audit (h : audit j = .ok a)
    (hown : ((storedSamples j).filterMap ownId?).Nodup) :
    ((a.samples.map (·.id)).Nodup ↔
      ∀ index item, (storedSamples j)[index]? = some item → ownId? item = none →
        numberedSampleId index ∉ (storedSamples j).filterMap ownId?) ∧
      ((a.samples.map (·.id)).Nodup → ∀ i s, a.samples[i]? = some s → a.Reaches i s) :=
  ⟨sampleIds_nodup_iff h hown, fun hids _ _ hs => Audit.reaches_of_getElem? hids hs⟩

end Audit

end Loading

namespace Specimen

/-- Samples with a numeric id, none, a blank one, no members at all, and a text as id. -/
def mixedIds : Json :=
  .object [("ruleFile", .object [("requirements", .array [])]),
    ("samples", .array
      [.object [("id", .number (.integer 1))], .object [("description", .text "Second")],
       .object [("id", .text " ")], .null, .object [("id", .text "home")]])]

theorem mixedIds_reached : ∃ a, Loading.audit mixedIds = .ok a ∧
    ((Loading.storedSamples mixedIds).filterMap Loading.ownId?).Nodup ∧
    a.samples.map (·.id) = ["1", "sample-2", "sample-3", "sample-4", "home"] ∧
    Loading.numberedSampleId 1 ∉ (Loading.storedSamples mixedIds).filterMap Loading.ownId? ∧
    ∀ i s, a.samples[i]? = some s → a.Reaches i s := by
  obtain ⟨a, ha⟩ : ∃ a, Loading.audit mixedIds = .ok a := ⟨_, rfl⟩
  have hown : ((Loading.storedSamples mixedIds).filterMap Loading.ownId?).Nodup := by decide
  have hids : a.samples.map (·.id) = ["1", "sample-2", "sample-3", "sample-4", "home"] := by
    obtain rfl := Except.ok.inj ha
    decide
  have hnodup : (a.samples.map (·.id)).Nodup := by
    rw [hids]
    decide
  obtain ⟨hfree, hreach⟩ := Loading.reaches_of_audit ha hown
  exact ⟨a, ha, hown, hids, hfree.mp hnodup 1 _ rfl rfl, hreach hnodup⟩

/-- The first sample has the very id that the second, which has none, gets from its position. -/
def numberTaken : Json :=
  .object [("ruleFileContent", .object [("requirements", .array [])]),
    ("samples", .array
      [.object [("id", .text "sample-2")], .object [("description", .text "Second")]])]

/-- The second sample is not reached: its id leads to the first. -/
theorem numberTaken_not_reached : ∃ a, Loading.audit numberTaken = .ok a ∧
    ((Loading.storedSamples numberTaken).filterMap Loading.ownId?).Nodup ∧
    ¬(a.samples.map (·.id)).Nodup ∧
    a.samples[1]? = some { id := "sample-2", description := "Second" } ∧
    a.sample? "sample-2" = some { id := "sample-2" } :=
  ⟨_, rfl, by decide, by decide, rfl, rfl⟩

end Specimen

end Conformance
