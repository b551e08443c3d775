import Conformance.Proofs.SampleIds
import Conformance.Proofs.SavedAudit

/-! Loading what was saved after loading. Most of what the reader lets through it would let through
again. Not so ids that come from blank member names or blank texts, which it drops or replaces once
they stand in a member of their own, and times that an offset moves out of the years with four
digits, which it cannot read back. The second loading leaves none of these, so the third finds
everything as it was. -/

namespace Conformance

/-- Every id that loading may take over blank is filled, and the year of every time has four
digits. -/
@[mk_iff] structure Audit.Settled (a : Audit) : Prop where
  contentTypes : Text.NoneBlank (a.ruleFile.metadata.contentTypes.map (·.id))
  sampleCategories : ∀ c ∈ a.ruleFile.metadata.sampleCategories, c.Canonical
  keys : Text.NoneBlank a.ruleFile.keys
  checks : ∀ r ∈ a.ruleFile.requirements, ∀ c ∈ r.checks, c.Canonical
  times : ∀ s ∈ a.samples, ∀ x ∈ s.results.values, ∀ t ∈ x.lastStatusUpdate,
    0 ≤ t.date.year ∧ t.date.year ≤ 9999

instance (a : Audit) : Decidable a.Settled := decidable_of_iff' _ a.settled_iff

namespace Loading

variable {j : Json} {a b : Audit}

/-! ### What every loaded audit satisfies -/

section Loaded

theorem noneBlank_idList (collection : Option Json) : Text.NoneBlank (idList collection) := by
  intro id hid
  rw [idList.eq_def] at hid
  split at hid
  · simpa using (List.mem_filter.mp hid).2
  · cases hid

theorem noneBlank_blockOrders {collection : Option Json} {order : List String}
    (h : order ∈ (blockOrders collection).values) : Text.NoneBlank order := by
  rw [blockOrders.eq_def] at h
  split at h
  · obtain ⟨e, he, rfl⟩ := List.mem_map.mp h
    obtain ⟨⟨view, stored⟩, -, rfl⟩ := List.mem_map.mp (KeyedMap.mem_of_mem_ofList he)
    exact noneBlank_idList _
  · cases h

theorem blockOrders_of_audit (h : audit j = .ok a) :
    ∀ order ∈ a.ruleFile.metadata.blockOrders.values, Text.NoneBlank order := by
  obtain ⟨f, hf, hfile⟩ := exists_decoded_of_audit h
  obtain ⟨m, rfl⟩ := exists_metadata_of_decode hf
  rw [hfile]
  intro order horder
  rw [RuleFile.makeKeysUnique, metadata.eq_def] at horder
  split at horder
  · exact noneBlank_blockOrders horder
  · cases horder

theorem contentTypes_of_audit (h : audit j = .ok a) :
    ∀ r ∈ a.ruleFile.requirements, Text.NoneBlank r.contentTypes := by
  obtain ⟨f, hf, hfile⟩ := exists_decoded_of_audit h
  obtain ⟨m, rfl⟩ := exists_metadata_of_decode hf
  rw [hfile]
  intro r hr
  obtain ⟨q, hq, hrenamed⟩ := RuleFile.exists_of_mem_makeKeysUnique hr
  obtain ⟨index, ⟨name, stored⟩, -, hread⟩ := mem_readEntries.mp hq
  rw [hrenamed]
  cases stored with
  | object o =>
    obtain rfl := Option.some.inj hread
    exact noneBlank_idList _
  | _ => cases hread

theorem isBlank_id_sampleAt (index : Nat) (item : Json) :
    Text.isBlank (sampleAt index item).id = false := by
  rw [id_sampleAt]
  cases hid : ownId? item with
  | some id =>
    cases item with
    | object o => exact isBlank_of_filledMember? hid
    | _ => cases hid
  | none =>
    have hprefix : Text.isBlank sampleIdPrefix = false := by decide
    rw [Option.getD_none, numberedSampleId, Text.isBlank_append, hprefix, Bool.false_and]

theorem selectedContentTypes_sampleAt (index : Nat) (item : Json) :
    Text.NoneBlank (sampleAt index item).selectedContentTypes := by
  have hsample : (sampleAt index item).selectedContentTypes =
      (sample item).selectedContentTypes := by
    rw [sampleAt]
    split <;> rfl
  rw [hsample, sample.eq_def]
  split
  · exact noneBlank_idList _
  · exact fun _ h => absurd h List.not_mem_nil

theorem sample_of_audit (h : audit j = .ok a) : ∀ s ∈ a.samples,
    Text.isBlank s.id = false ∧ Text.NoneBlank s.selectedContentTypes := by
  rw [samples_of_audit h]
  intro s hs
  obtain ⟨⟨item, index⟩, -, rfl⟩ := List.mem_map.mp hs
  exact ⟨isBlank_id_sampleAt index item, selectedContentTypes_sampleAt index item⟩

/-- Loading sees to the rest of what a canonical audit is. -/
theorem canonical_iff_settled (h : audit j = .ok a) : a.Canonical ↔ a.Settled := by
  constructor
  · rintro ⟨hfile, hsamples⟩
    refine ⟨hfile.metadata.contentTypes, hfile.metadata.sampleCategories, ?_,
      fun r hr => (hfile.requirements r hr).checks, fun s hs => (hsamples s hs).times⟩
    intro key hkey
    obtain ⟨r, hr, rfl⟩ := List.mem_map.mp hkey
    exact (hfile.requirements r hr).key
  · intro hs
    have hmetadata : a.ruleFile.metadata.Canonical :=
      ⟨hs.contentTypes, hs.sampleCategories, blockOrders_of_audit h⟩
    have hrequirements : ∀ r ∈ a.ruleFile.requirements, r.Canonical := fun r hr =>
      ⟨hs.keys r.key (List.mem_map_of_mem hr), contentTypes_of_audit h r hr, hs.checks r hr⟩
    refine ⟨⟨hmetadata, hrequirements, keys_nodup_of_audit h⟩, fun s hmem => ?_⟩
    obtain ⟨hid, hselected⟩ := sample_of_audit h s hmem
    exact ⟨hid, hselected, hs.times s hmem⟩

end Loaded

/-! ### Reading arrays that were written -/

section Arrays

theorem exists_of_mem_entries {α : Type} [JsonForm α] {as : List α} {e : Option String × Json}
    (h : e ∈ entries (some (toJson as))) : ∃ a ∈ as, e = (none, toJson a) := by
  rw [entries_toJson, List.mem_map] at h
  obtain ⟨a, ha, rfl⟩ := h
  exact ⟨a, ha, rfl⟩

theorem exists_of_mem_readEntries {α β : Type} [JsonForm α] {as : List α} {b : β}
    {read : Nat → Option String → Json → Option β}
    (h : b ∈ readEntries read (some (toJson as))) :
    ∃ a ∈ as, ∃ index, read index none (toJson a) = some b := by
  obtain ⟨index, e, he, hread⟩ := mem_readEntries.mp h
  obtain ⟨a, ha, rfl⟩ := exists_of_mem_entries (List.mem_of_getElem? he)
  exact ⟨a, ha, index, hread⟩

theorem isBlank_of_term? {o : Members} {t : Term} (h : term? none (.object o) = some t) :
    Text.isBlank t.id = false := by
  rw [term?, Option.or_none, Option.map_eq_some_iff] at h
  obtain ⟨id, hid, rfl⟩ := h
  exact isBlank_of_filledMember? hid

theorem noneBlank_terms (ts : List Term) :
    Text.NoneBlank ((terms (some (toJson ts))).map (·.id)) := by
  intro id hid
  obtain ⟨t, ht, rfl⟩ := List.mem_map.mp hid
  obtain ⟨e, he, hread⟩ := List.mem_filterMap.mp ht
  obtain ⟨stored, -, rfl⟩ := exists_of_mem_entries he
  exact isBlank_of_term? hread

theorem canonical_of_category? {stored c : SampleCategory}
    (h : category? none (toJson stored) = some c) : c.Canonical := by
  rw [category?, Option.map_eq_some_iff] at h
  obtain ⟨t, ht, rfl⟩ := h
  exact ⟨isBlank_of_term? ht, noneBlank_terms stored.sampleTypes⟩

theorem isBlank_entryId (o : Members) (index : Nat) :
    Text.isBlank (entryId o none index) = false := by
  rw [entryId, Option.or_none]
  cases hid : filledMember? o "id" with
  | none => exact Text.isBlank_toString _
  | some id => exact isBlank_of_filledMember? hid

theorem canonical_of_check? {stored c : Check} {index : Nat}
    (h : check? index none (toJson stored) = some c) : c.Canonical := by
  obtain rfl := Option.some.inj h
  refine ⟨isBlank_entryId _ index, ?_⟩
  intro id hid
  obtain ⟨p, hp, rfl⟩ := List.mem_map.mp hid
  change p ∈ readEntries (fun i name j => some (criterion i name j))
    (some (toJson stored.criteria)) at hp
  obtain ⟨q, -, i, hread⟩ := exists_of_mem_readEntries hp
  obtain rfl := Option.some.inj hread
  exact isBlank_entryId _ i

end Arrays

/-! ### The second loading -/

section Reload

/-- A written rule file as it is decoded again. -/
def reread (f : RuleFile) : RuleFile where
  metadata := metadata (some (toJson f.metadata))
  requirements := readEntries requirement? (some (toJson f.requirements))

/-- What was recorded stays, but for times that cannot be read back. -/
theorem reload_eq (h : audit j = .ok a) : audit (toJson a) =
    .ok { ruleFile := (reread a.ruleFile).makeKeysUnique
          samples := a.samples.map Sample.reread
          tombstones := a.tombstones } := by
  have hfile : decodeAuditRuleFile (toJson a) = .ok (reread a.ruleFile) := rfl
  have hsamples : samples ((toJson a).member? "samples") = a.samples.map Sample.reread :=
    samples_toJson (sample_of_audit h)
  have htombstones : tombstones ((toJson a).member? "tombstones") = a.tombstones :=
    tombstones_toJson a.tombstones
  rw [audit, hfile, hsamples, htombstones]
  rfl

theorem hasBlankKey_none (j : Json) : hasBlankKey none j = false := by
  cases j with
  | object o => rw [hasBlankKey, Option.any_none, Bool.and_false]
  | _ => rfl

theorem years_of_mem_reread {s : Sample} {x : RequirementResult}
    (h : x ∈ s.reread.results.values) :
    ∀ t ∈ x.lastStatusUpdate, 0 ≤ t.date.year ∧ t.date.year ≤ 9999 := by
  obtain ⟨e, he, rfl⟩ := List.mem_map.mp h
  obtain ⟨stored, -, hread⟩ := List.mem_filterMap.mp he
  obtain rfl := Option.some.inj hread
  intro t ht
  exact of_decide_eq_true (Option.filter_eq_some_iff.mp ht).2

/-- The writer puts every id into a member, and there the reader takes no blank one. -/
theorem settled_of_reload (h : audit j = .ok a) (hb : audit (toJson a) = .ok b) : b.Settled := by
  -- `b` was loaded as well, so its keys are known without a look at how they were renamed.
  have hkeys : Text.NoneBlank b.ruleFile.keys := by
    refine (keys_filled_iff hb).mpr fun e he => ?_
    obtain ⟨r, -, rfl⟩ := exists_of_mem_entries he
    exact hasBlankKey_none _
  obtain rfl := Except.ok.inj ((reload_eq h).symm.trans hb)
  refine ⟨noneBlank_terms _, ?_, hkeys, ?_, ?_⟩
  · intro c hc
    obtain ⟨e, he, hread⟩ := List.mem_filterMap.mp hc
    obtain ⟨stored, -, rfl⟩ := exists_of_mem_entries he
    exact canonical_of_category? hread
  · intro r hr
    obtain ⟨q, hq, hrenamed⟩ := RuleFile.exists_of_mem_makeKeysUnique hr
    obtain ⟨stored, -, index, hread⟩ := exists_of_mem_readEntries hq
    obtain rfl := Option.some.inj hread
    rw [hrenamed]
    intro c hc
    obtain ⟨check, -, i, hcheck⟩ := exists_of_mem_readEntries hc
    exact canonical_of_check? hcheck
  · intro s hs x hx
    obtain ⟨stored, -, rfl⟩ := List.mem_map.mp hs
    exact years_of_mem_reread hx

/-- Loading what was saved after loading gives the same audit exactly if that is settled. In any case
it keeps what was recorded but for times that cannot be read back, and loading what is saved after
it changes nothing more. -/
theorem reload_stable_iff (h : audit j = .ok a) :
    (audit (toJson a) = .ok a ↔ a.Settled) ∧
      ∃ b, audit (toJson a) = .ok b ∧ audit (toJson b) = .ok b ∧
        b.samples = a.samples.map Sample.reread ∧ b.tombstones = a.tombstones := by
  have hfixed : ∀ {j : Json} {c : Audit}, audit j = .ok c → c.Settled →
      audit (toJson c) = .ok c :=
    fun hc hsettled => audit_toJson ((canonical_iff_settled hc).mpr hsettled)
  have hb := reload_eq h
  exact ⟨⟨fun hsame => settled_of_reload h hsame, hfixed h⟩, _, hb,
    hfixed hb (settled_of_reload h hb), rfl, rfl⟩

end Reload

end Loading

namespace Specimen

/-- A stored audit of former shape: a vocabulary among others, a requirement named by its member, a
check with a blank id, criteria that are texts or have numbers as ids, and a time with an offset. -/
def formerShape : Json :=
  .object
    [("ruleFile", .object
      [("metadata", .object
        [("version", .number (.integer 3)),
         ("vocabularies", .object
           [("contentTypes", .object [("image", .text "Images")])])]),
       ("requirements", .object
        [("1.1", .object
          [("outline", .array
            [.object
              [("id", .text " "),
               ("criteria", .array [.text "Look", .object [("id", .number (.integer 7))]])],
             .null])])])]),
     ("samples", .array
      [.object
        [("requirementResults", .object
          [("1.1", .object [("lastStatusUpdate", .text "2024-05-01T01:00:00+02:00")])])]])]

theorem formerShape_stable : ∃ a, Loading.audit formerShape = .ok a ∧ a.Settled ∧
    Loading.audit (toJson a) = .ok a := by
  obtain ⟨a, ha⟩ : ∃ a, Loading.audit formerShape = .ok a := ⟨_, rfl⟩
  have hsettled : a.Settled := by
    obtain rfl := Except.ok.inj ha
    decide
  exact ⟨a, ha, hsettled, (Loading.reload_stable_iff ha).1.mpr hsettled⟩

/-- A stored audit with a blank content type, a check under a blank member name, and a time that is
of the year 10000 in UTC. -/
def unsettled : Json :=
  .object
    [("ruleFileContent", .object
      [("metadata", .object [("contentTypes", .array [.text ""])]),
       ("requirements", .array
        [.object [("key", .text "1.1"), ("checks", .object
          [("", .object [("condition", .text "There are images")])])]])]),
     ("samples", .array
      [.object
        [("id", .text "home"),
         ("requirementResults", .object
          [("1.1", .object
            [("status", .text "passed"),
             ("lastStatusUpdate", .text "9999-12-31T23:59:59-01:00"),
             ("checkResults", .object
              [("", .object [("overallStatus", .text "passed")])])])])]])]

/-- The second loading drops the content type and the time, and the check gets an id under which it
has no result. -/
theorem unsettled_not_stable : ∃ a b, Loading.audit unsettled = .ok a ∧
    Loading.audit (toJson a) = .ok b ∧
    a.ruleFile.metadata.contentTypes = [⟨"", ""⟩] ∧ b.ruleFile.metadata.contentTypes = [] ∧
    (a.ruleFile.requirements.map fun r => r.checks.map (·.id)) = [[""]] ∧
    (b.ruleFile.requirements.map fun r => r.checks.map (·.id)) = [["1"]] ∧
    (a.samples.map fun s => (s.result? "1.1").map (·.lastStatusUpdate.isSome)) = [some true] ∧
    (b.samples.map fun s => (s.result? "1.1").map (·.lastStatusUpdate.isSome)) = [some false] ∧
    (b.samples.map fun s => (s.result? "1.1").map (·.checks.keys)) = [some [""]] :=
  ⟨_, _, rfl, rfl, by decide, by decide, by decide, by decide, by decide, by decide, by decide⟩

end Specimen

end Conformance
