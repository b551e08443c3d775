import Conformance.Proofs.RuleFileUpdate
import Conformance.Proofs.Text
import Conformance.Proofs.UniqueKeys
import Conformance.Proofs.Validity

/-! The keys of a loaded audit. Renaming makes them distinct, whatever was stored. A blank `key` or
`id` counts as absent, but a blank member name does not: it becomes the key of a requirement that has
neither. Nothing else keeps a loaded rule file from being valid. -/

namespace Conformance

namespace RuleFile

section Renaming

variable {f : RuleFile} {key : String} {r : Requirement}

theorem isBlank_numberedKey (key : String) (n : Nat) :
    Text.isBlank (numberedKey key n) = false := by
  rw [numberedKey, Text.isBlank_append, Text.isBlank_toString, Bool.and_false]

theorem exists_of_mem_makeKeysUnique (h : r ∈ f.makeKeysUnique.requirements) :
    ∃ q ∈ f.requirements, r = { q with key := r.key } := by
  obtain ⟨i, hi⟩ := List.getElem?_of_mem h
  obtain ⟨q, hends⟩ := exists_endsUp (keys_getElem? hi)
  exact ⟨q, List.mem_of_getElem? hends.stored,
    f.sameButKeys_makeKeysUnique.getElem? hends.stored hi⟩

/-- A blank key is never taken over, since no key with a number behind it is blank. -/
theorem mem_keys_makeKeysUnique_iff (hblank : Text.isBlank key = true) :
    key ∈ f.makeKeysUnique.keys ↔ key ∈ f.keys := by
  have hunnumbered : ∀ other n, key ≠ numberedKey other n := by
    rintro other n rfl
    rw [isBlank_numberedKey] at hblank
    cases hblank
  constructor
  · intro hmem
    obtain ⟨i, hplace⟩ := List.getElem?_of_mem hmem
    obtain ⟨r, hends⟩ := exists_endsUp hplace
    by_cases hsame : r.key = key
    · exact hsame ▸ List.mem_map_of_mem (List.mem_of_getElem? hends.stored)
    · obtain ⟨n, -, hnumber⟩ := hends.numbered hsame
      exact absurd hnumber (hunnumbered _ n)
  · intro hmem
    obtain ⟨r, hr⟩ := exists_requirement? (contains_iff.mpr hmem)
    have hfree : ¬f.TakenOver key := not_takenOver fun other _ => hunnumbered other
    exact contains_iff.mp (contains_of_requirement? (requirement?_makeKeysUnique hr hfree))

end Renaming

end RuleFile

namespace Loading

/-- The collection that is read as the requirements of a stored audit. -/
def storedRequirements : Json → Option Json
  | .object o =>
    (renamedMember? o "ruleFileContent" "ruleFile").bind (Json.member? "requirements")
  | _ => none

/-- A requirement under a blank member name that has no `key` and no `id` of its own. -/
def hasBlankKey (name : Option String) : Json → Bool
  | .object o =>
    (filledMember? o "key").isNone && (filledMember? o "id").isNone && name.any Text.isBlank
  | _ => false

section Reading

variable {o : Members} {j : Json}

theorem isBlank_of_filledMember? {name s : String} (h : filledMember? o name = some s) :
    Text.isBlank s = false := by
  simpa using (Option.filter_eq_some_iff.mp h).2

theorem mem_readEntries {α : Type} {read : Nat → Option String → Json → Option α}
    {collection : Option Json} {a : α} : a ∈ readEntries read collection ↔
      ∃ index e, (entries collection)[index]? = some e ∧ read index e.1 e.2 = some a := by
  rw [readEntries, List.mem_filterMap]
  constructor
  · rintro ⟨⟨e, index⟩, hmem, hread⟩
    exact ⟨index, e, List.mem_zipIdx_iff_getElem?.mp hmem, hread⟩
  · rintro ⟨index, e, he, hread⟩
    exact ⟨(e, index), List.mem_zipIdx_iff_getElem?.mpr he, hread⟩

/-- Every way to a key but the member name ends in one that is not blank. -/
theorem isBlank_requirementKey (o : Members) (name : Option String) (index : Nat) :
    Text.isBlank (requirementKey o name index) = hasBlankKey name (.object o) := by
  rw [requirementKey, hasBlankKey]
  cases hkey : filledMember? o "key" with
  | some key => simpa using isBlank_of_filledMember? hkey
  | none =>
    cases hid : filledMember? o "id" with
    | some id => simpa using isBlank_of_filledMember? hid
    | none =>
      cases name with
      | some name => simp
      | none =>
        have hprefix : Text.isBlank requirementKeyPrefix = false := by decide
        simp [Text.isBlank_append, hprefix]

theorem isBlank_key_of_requirement? {index : Nat} {name : Option String} {r : Requirement}
    (h : requirement? index name j = some r) : Text.isBlank r.key = hasBlankKey name j := by
  cases j with
  | object o =>
    obtain rfl := Option.some.inj h
    exact isBlank_requirementKey o name index
  | _ => cases h

theorem exists_requirement?_of_hasBlankKey {name : Option String} (h : hasBlankKey name j = true)
    (index : Nat) : ∃ r, requirement? index name j = some r := by
  cases j with
  | object o => exact ⟨_, rfl⟩
  | _ => cases h

theorem exists_metadata_of_decode {f : RuleFile} (h : decodeAuditRuleFile j = .ok f) :
    ∃ m, f = { metadata := metadata m
               requirements := readEntries requirement? (storedRequirements j) } := by
  cases j with
  | object o =>
    rw [decodeAuditRuleFile] at h
    rw [storedRequirements]
    cases hfile : renamedMember? o "ruleFileContent" "ruleFile" with
    | none => simp [hfile] at h
    | some file =>
      rw [hfile] at h
      cases file with
      | object members =>
        change decodeRuleFile (.object members) = .ok f at h
        rw [decodeRuleFile] at h
        split at h
        · exact ⟨members.lookup "metadata", (Except.ok.inj h).symm⟩
        · cases h
      | _ => cases h
  | _ => cases h

/-- A decoded key is blank only through a blank member name. -/
theorem exists_blank_key_iff {f : RuleFile} (h : decodeAuditRuleFile j = .ok f) :
    (∃ key ∈ f.keys, Text.isBlank key = true) ↔
      ∃ e ∈ entries (storedRequirements j), hasBlankKey e.1 e.2 = true := by
  obtain ⟨m, rfl⟩ := exists_metadata_of_decode h
  rw [RuleFile.keys]
  constructor
  · rintro ⟨_, hmem, hblank⟩
    obtain ⟨r, hr, rfl⟩ := List.mem_map.mp hmem
    obtain ⟨index, e, he, hread⟩ := mem_readEntries.mp hr
    exact ⟨e, List.mem_of_getElem? he, by rw [← isBlank_key_of_requirement? hread, hblank]⟩
  · rintro ⟨e, he, hblank⟩
    obtain ⟨index, hindex⟩ := List.getElem?_of_mem he
    obtain ⟨r, hread⟩ := exists_requirement?_of_hasBlankKey hblank index
    exact ⟨r.key, List.mem_map_of_mem (mem_readEntries.mpr ⟨index, e, hindex, hread⟩), by
      rw [isBlank_key_of_requirement? hread, hblank]⟩

end Reading

variable {j : Json} {a : Audit}

theorem keys_nodup_of_audit (h : audit j = .ok a) : a.ruleFile.keys.Nodup := by
  obtain ⟨f, -, hfile⟩ := exists_decoded_of_audit h
  rw [hfile]
  exact f.keys_nodup_makeKeysUnique

theorem keys_filled_iff (h : audit j = .ok a) :
    (∀ key ∈ a.ruleFile.keys, Text.isBlank key = false) ↔
      ∀ e ∈ entries (storedRequirements j), hasBlankKey e.1 e.2 = false := by
  obtain ⟨f, hf, hfile⟩ := exists_decoded_of_audit h
  have hblank : (∃ key ∈ a.ruleFile.keys, Text.isBlank key = true) ↔
      ∃ key ∈ f.keys, Text.isBlank key = true := by
    rw [hfile]
    exact exists_congr fun key =>
      and_congr_left fun hblank => RuleFile.mem_keys_makeKeysUnique_iff hblank
  have hnot := not_congr (hblank.trans (exists_blank_key_iff hf))
  simpa only [not_exists, not_and, Bool.not_eq_true] using hnot

/-- The keys of a loaded audit do not repeat. Its rule file is valid, and can be applied to any audit,
exactly if no stored requirement takes its key from a blank member name. -/
theorem valid_iff_of_audit (h : audit j = .ok a) :
    a.ruleFile.keys.Nodup ∧
      (a.ruleFile.validate = .ok () ↔
        ∀ e ∈ entries (storedRequirements j), hasBlankKey e.1 e.2 = false) ∧
      ∀ b : Audit, (∃ next, b.applyRuleFile a.ruleFile (b.changeReport a.ruleFile) = .ok next) ↔
        ∀ e ∈ entries (storedRequirements j), hasBlankKey e.1 e.2 = false := by
  have hnodup := keys_nodup_of_audit h
  have hvalid : a.ruleFile.validate = .ok () ↔
      ∀ e ∈ entries (storedRequirements j), hasBlankKey e.1 e.2 = false := by
    rw [RuleFile.validate_eq_ok_iff, and_iff_left hnodup, keys_filled_iff h]
  refine ⟨hnodup, hvalid, fun b => ?_⟩
  rw [← hvalid]
  constructor
  · rintro ⟨next, happly⟩
    exact (Audit.eq_reconcile_of_applyRuleFile happly).1
  · intro hok
    exact ⟨_, Audit.applyRuleFile_changeReport hok⟩

end Loading

namespace Specimen

/-- Requirements by member names, the blank one among them, with keys that come from numbers, repeat
and are absent. -/
def keyedByMember : Json :=
  .object [("ruleFile", .object [("requirements", .object
    [("", .object [("id", .number (.integer 7))]),
     ("a", .object [("key", .text "7")]),
     ("b", .object [("id", .text " ")])])])]

theorem keyedByMember_valid : ∃ a, Loading.audit keyedByMember = .ok a ∧
    a.ruleFile.keys = ["7", "7-1", "b"] ∧ a.ruleFile.validate = .ok () ∧
    ∃ next, a.applyRuleFile a.ruleFile (a.changeReport a.ruleFile) = .ok next := by
  obtain ⟨a, ha⟩ : ∃ a, Loading.audit keyedByMember = .ok a := ⟨_, rfl⟩
  have hkeys : a.ruleFile.keys = ["7", "7-1", "b"] := by
    obtain rfl := Except.ok.inj ha
    decide
  have hfilled : ∀ e ∈ Loading.entries (Loading.storedRequirements keyedByMember),
      Loading.hasBlankKey e.1 e.2 = false := by decide
  obtain ⟨-, hvalid, happlies⟩ := Loading.valid_iff_of_audit ha
  exact ⟨a, ha, hkeys, hvalid.mpr hfilled, (happlies a).mpr hfilled⟩

/-- A stored audit whose only requirement is named by nothing but a blank member name. -/
def unnamed : Json :=
  .object [("ruleFileContent", .object [("requirements", .object
    [("", .object [("title", .text "First")])])])]

/-- It loads, but its rule file is not valid and cannot be applied again. -/
theorem unnamed_not_valid : ∃ a, Loading.audit unnamed = .ok a ∧
    a.ruleFile.validate = .error (.emptyKey 0) ∧
    ∀ report, a.applyRuleFile a.ruleFile report = .error (.invalidRuleFile (.emptyKey 0)) :=
  ⟨_, rfl, rfl, fun _ => rfl⟩

end Specimen

end Conformance
