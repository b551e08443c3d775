import Conformance.Proofs.KeyedMap
import Conformance.RuleFile.Update
import Mathlib.Data.List.Nodup

/-! One rule-file update: looking up requirements, what the two files say about a key, and the audit
that an accepted update leaves. An update walks over the results one by one and could be refused at
each; that it never is, and what it leaves, is the audit in closed form. -/

namespace Conformance

/-! ### What an update leaves, in closed form -/

/-- The result with a pending review; findings and times stay. -/
def RequirementResult.flagged (x : RequirementResult) : RequirementResult :=
  x.setLifecycle .stale

/-- A result after the update, unless it is dropped. -/
def Disposition.apply (d : Disposition) (x : RequirementResult) : Option RequirementResult :=
  match d with
  | .carry => some x
  | .flag => some x.flagged
  | .drop _ => none

/-- The sample after the update. -/
def Sample.reconcile (old new : RuleFile) (s : Sample) : Sample :=
  { s with results := s.results.filterMap fun key x => (disposition old new key).apply x }

/-- The tombstones of the results that a sample loses, in key order. -/
def Sample.tombstones (old new : RuleFile) (s : Sample) : List Tombstone :=
  s.results.keys.filterMap fun key =>
    match disposition old new key with
    | .drop title =>
      some { sampleId := s.id, requirementKey := key, title, ruleFileVersion := new.version }
    | _ => none

/-- The audit with the new rule file and its results brought in line. -/
def Audit.reconcile (a : Audit) (new : RuleFile) : Audit where
  ruleFile := new
  samples := a.samples.map (Sample.reconcile a.ruleFile new)
  tombstones := a.tombstones ++ a.samples.flatMap (Sample.tombstones a.ruleFile new)

/-! ### Looking up requirements -/

/-- Where keys are distinct, what is found under the key of a member is that member. -/
theorem find?_of_mem_of_nodup {α : Type} {key : α → String} {as : List α} {a : α}
    (hkeys : (as.map key).Nodup) (h : a ∈ as) : as.find? (fun b => key b == key a) = some a := by
  obtain ⟨b, hb⟩ : ∃ b, as.find? (fun b => key b == key a) = some b :=
    Option.isSome_iff_exists.mp (List.find?_isSome.mpr ⟨a, h, beq_self_eq_true (key a)⟩)
  have hkey : key b = key a := by simpa using List.find?_some hb
  rw [hb, List.inj_on_of_nodup_map hkeys (List.mem_of_find?_eq_some hb) h hkey]

section Lookup

variable {α β γ : Type} {view : α → β} {look : α → γ} {x y : Option α}

/-- Two lookups that look the same find nothing, or things that look the same. -/
theorem lookup_cases (h : x.map view = y.map view) :
    (x = none ∧ y = none) ∨ ∃ a b, x = some a ∧ y = some b ∧ view a = view b := by
  cases x with
  | none => exact .inl ⟨rfl, Option.map_eq_none_iff.mp h.symm⟩
  | some a =>
    obtain ⟨b, hb, heq⟩ := Option.map_eq_some_iff.mp h.symm
    exact .inr ⟨a, b, rfl, hb, heq.symm⟩

theorem lookup_congr (hlook : ∀ a b, view a = view b → look a = look b)
    (h : x.map view = y.map view) : x.map look = y.map look := by
  rcases lookup_cases h with ⟨rfl, rfl⟩ | ⟨a, b, rfl, rfl, heq⟩
  · rfl
  · exact congrArg some (hlook a b heq)

end Lookup

namespace RuleFile

variable {f : RuleFile} {key : String} {r : Requirement}

theorem key_of_requirement? (h : f.requirement? key = some r) : r.key = key := by
  simpa using List.find?_some h

theorem mem_of_requirement? (h : f.requirement? key = some r) : r ∈ f.requirements :=
  List.mem_of_find?_eq_some h

theorem contains_of_requirement? (h : f.requirement? key = some r) : f.contains key = true := by
  rw [contains, h, Option.isSome_some]

theorem contains_iff : f.contains key = true ↔ key ∈ f.keys := by
  simp [contains, requirement?, keys, List.find?_isSome]

theorem contains_of_mem (h : r ∈ f.requirements) : f.contains r.key = true :=
  contains_iff.mpr (List.mem_map_of_mem h)

theorem exists_requirement? (h : f.contains key = true) : ∃ r, f.requirement? key = some r :=
  Option.isSome_iff_exists.mp h

theorem requirement?_eq_none (h : ¬f.contains key = true) : f.requirement? key = none :=
  Option.not_isSome_iff_eq_none.mp h

theorem requirement?_of_mem (hkeys : f.keys.Nodup) (h : r ∈ f.requirements) :
    f.requirement? r.key = some r :=
  find?_of_mem_of_nodup hkeys h

end RuleFile

/-! ### What two rule files say about a key -/

namespace RuleFile

/-- The title that a file gives a key; empty if it does not define the key. -/
def titleOf (f : RuleFile) (key : String) : String := ((f.requirement? key).map (·.title)).getD ""

/-- The two files define `key` with different fingerprints. -/
def Redefines (old new : RuleFile) (key : String) : Prop :=
  ∃ before after, old.requirement? key = some before ∧ new.requirement? key = some after ∧
    Fingerprint.requirement before ≠ Fingerprint.requirement after

/-- The new file gives results under `key` another meaning: it defines the key, and the old file
does not, or differently. -/
def Unsettles (old new : RuleFile) (key : String) : Prop :=
  new.contains key = true ∧ (old.contains key = true → old.Redefines new key)

variable {old new : RuleFile} {key : String}

theorem Redefines.contains_old (h : old.Redefines new key) : old.contains key = true := by
  obtain ⟨_, _, hbefore, -, -⟩ := h
  exact contains_of_requirement? hbefore

theorem Redefines.contains_new (h : old.Redefines new key) : new.contains key = true := by
  obtain ⟨_, _, -, hafter, -⟩ := h
  exact contains_of_requirement? hafter

theorem Redefines.unsettles (h : old.Redefines new key) : old.Unsettles new key :=
  ⟨h.contains_new, fun _ => h⟩

/-- A definition that does not unsettle a key has the same fingerprint as the one before. -/
theorem exists_of_not_unsettles {after : Requirement} (hafter : new.requirement? key = some after)
    (h : ¬old.Unsettles new key) : ∃ before, old.requirement? key = some before ∧
      Fingerprint.requirement before = Fingerprint.requirement after := by
  have hnew : new.contains key = true := contains_of_requirement? hafter
  cases hbefore : old.requirement? key with
  | none =>
    have hold : ¬old.contains key = true := by simp [contains, hbefore]
    exact absurd ⟨hnew, fun hc => absurd hc hold⟩ h
  | some before =>
    refine ⟨before, rfl, ?_⟩
    by_contra hne
    exact h (Redefines.unsettles ⟨before, after, hbefore, hafter, hne⟩)

end RuleFile

section Disposition

variable {old new : RuleFile} {key : String}

theorem disposition_of_not_contains (h : ¬new.contains key = true) :
    disposition old new key = .drop (old.titleOf key) := by
  rw [disposition, RuleFile.requirement?_eq_none h, RuleFile.titleOf]
  cases old.requirement? key <;> rfl

theorem disposition_of_unsettles (h : old.Unsettles new key) : disposition old new key = .flag := by
  by_cases hold : old.contains key = true
  · obtain ⟨before, after, hbefore, hafter, hne⟩ := h.2 hold
    simp only [disposition, hbefore, hafter, if_neg hne]
  · obtain ⟨after, hafter⟩ := RuleFile.exists_requirement? h.1
    rw [disposition, RuleFile.requirement?_eq_none hold, hafter]

theorem disposition_of_not_unsettles (hnew : new.contains key = true)
    (h : ¬old.Unsettles new key) : disposition old new key = .carry := by
  obtain ⟨after, hafter⟩ := RuleFile.exists_requirement? hnew
  obtain ⟨before, hbefore, heq⟩ := RuleFile.exists_of_not_unsettles hafter h
  simp only [disposition, hbefore, hafter, if_pos heq]

/-- What becomes of a key depends on the title and the fingerprint of its old definition and on the
fingerprint of its new one. -/
theorem disposition_congr {old' new' : RuleFile}
    (hold : (old.requirement? key).map (fun r => (r.title, Fingerprint.requirement r)) =
      (old'.requirement? key).map fun r => (r.title, Fingerprint.requirement r))
    (hnew : (new.requirement? key).map Fingerprint.requirement =
      (new'.requirement? key).map Fingerprint.requirement) :
    disposition old new key = disposition old' new' key := by
  rcases lookup_cases hold with ⟨hb, hb'⟩ | ⟨before, before', hb, hb', hbefore⟩ <;>
    rcases lookup_cases hnew with ⟨ha, ha'⟩ | ⟨after, after', ha, ha', hafter⟩ <;>
    simp only [disposition, hb, hb', ha, ha']
  · rw [(Prod.mk.inj hbefore).1]
  · rw [(Prod.mk.inj hbefore).2, hafter]

theorem Disposition.isSome_apply (old new : RuleFile) (key : String) (x : RequirementResult) :
    ((disposition old new key).apply x).isSome = new.contains key := by
  by_cases hnew : new.contains key = true
  · rw [hnew]
    by_cases h : old.Unsettles new key
    · rw [disposition_of_unsettles h]
      rfl
    · rw [disposition_of_not_unsettles hnew h]
      rfl
  · rw [disposition_of_not_contains hnew, eq_false_of_ne_true hnew]
    rfl

end Disposition

/-! ### The audit after an update -/

theorem RequirementResult.flagged_eq (x : RequirementResult) :
    x.flagged = { x with needsReview := true } := rfl

section Reconcile

variable {a : Audit} {new : RuleFile}

theorem Sample.mem_keys_iff {s : Sample} {key : String} :
    key ∈ s.results.keys ↔ (s.result? key).isSome :=
  KeyedMap.mem_keys_iff

theorem Sample.result?_reconcile (old new : RuleFile) (s : Sample) (key : String) :
    (s.reconcile old new).result? key =
      (s.result? key).bind (disposition old new key).apply :=
  KeyedMap.get?_filterMap s.results _ key

/-- The keys of a sample after an update are those that the new file defines. -/
theorem Sample.keys_reconcile (old new : RuleFile) (s : Sample) :
    (s.reconcile old new).results.keys = s.results.keys.filter new.contains :=
  KeyedMap.keys_filterMap (Disposition.isSome_apply old new)

/-- One tombstone for each key that the new file lacks, with the title in the old file. -/
theorem Sample.tombstones_eq (old new : RuleFile) (s : Sample) :
    s.tombstones old new = (s.results.keys.filter (!new.contains ·)).map fun key =>
      { sampleId := s.id, requirementKey := key, title := old.titleOf key,
        ruleFileVersion := new.version } := by
  rw [tombstones, ← List.filterMap_eq_map, List.filterMap_filter]
  refine List.filterMap_congr fun key _ => ?_
  by_cases hnew : new.contains key = true
  · have hsome := Disposition.isSome_apply old new key {}
    rw [hnew] at hsome
    cases hd : disposition old new key with
    | carry => simp [hnew]
    | flag => simp [hnew]
    | drop title => rw [hd] at hsome; cases hsome
  · rw [disposition_of_not_contains hnew]
    simp [hnew]

/-- What an update makes of the results depends on what becomes of each key, and of the new file
otherwise on the version alone. -/
theorem Audit.reconcile_congr (a : Audit) {old new' : RuleFile} (hversion : new.version = new'.version)
    (h : ∀ key, disposition a.ruleFile new key = disposition old new' key) :
    (a.reconcile new).samples = ({ a with ruleFile := old }.reconcile new').samples ∧
      (a.reconcile new).tombstones = ({ a with ruleFile := old }.reconcile new').tombstones := by
  have hdisposition : disposition a.ruleFile new = disposition old new' := funext h
  have hsample : Sample.reconcile a.ruleFile new = Sample.reconcile old new' := by
    funext s
    simp only [Sample.reconcile, hdisposition]
  have htombstones : Sample.tombstones a.ruleFile new = Sample.tombstones old new' := by
    funext s
    simp only [Sample.tombstones, hdisposition, hversion]
  simp only [reconcile, hsample, htombstones, and_self]

end Reconcile

/-! ### Result by result -/

section Align

variable (old new : RuleFile) (s : Sample)

theorem RequirementResult.flag_eq (x : RequirementResult) : x.flag = .ok x.flagged := rfl

/-- One stored result, whatever its status: it goes to the kept ones or becomes a tombstone. -/
theorem Sample.alignResult_eq (results : KeyedMap RequirementResult) (tombstones : List Tombstone)
    (key : String) (x : RequirementResult) :
    s.alignResult old new (results, tombstones) (key, x) =
      .ok (((disposition old new key).apply x).elim results (results.insert key),
        tombstones ++ if new.contains key then [] else
          [{ sampleId := s.id, requirementKey := key, title := old.titleOf key,
             ruleFileVersion := new.version }]) := by
  by_cases hnew : new.contains key = true
  · rw [if_pos hnew, List.append_nil]
    by_cases h : old.Unsettles new key
    · simp only [alignResult, disposition_of_unsettles h, RequirementResult.flag_eq]
      rfl
    · simp only [alignResult, disposition_of_not_unsettles hnew h]
      rfl
  · rw [if_neg hnew]
    simp only [alignResult, disposition_of_not_contains hnew]
    rfl

/-- A walk over results never stops: it inserts those that stay and leaves a tombstone for every
other. -/
theorem Sample.foldlM_alignResult (entries : List (String × RequirementResult))
    (results : KeyedMap RequirementResult) (tombstones : List Tombstone) :
    entries.foldlM (s.alignResult old new) (results, tombstones) =
      .ok ((entries.filterMap fun e => ((disposition old new e.1).apply e.2).map (e.1, ·)).foldl
          (fun m e => m.insert e.1 e.2) results,
        tombstones ++ ((entries.map (·.1)).filter (!new.contains ·)).map fun key =>
          { sampleId := s.id, requirementKey := key, title := old.titleOf key,
            ruleFileVersion := new.version }) := by
  induction entries generalizing results tombstones with
  | nil => simp [pure, Except.pure]
  | cons entry rest ih =>
    obtain ⟨key, x⟩ := entry
    rw [List.foldlM_cons, alignResult_eq]
    show rest.foldlM (s.alignResult old new) _ = _
    rw [ih, List.append_assoc]
    -- The new file decides whether the entry stays and whether its key gets a tombstone.
    have hsome := Disposition.isSome_apply old new key x
    cases hkept : (disposition old new key).apply x with
    | none =>
      have hnew : new.contains key = false := by rw [← hsome, hkept, Option.isSome_none]
      simp [hkept, hnew]
    | some y =>
      have hnew : new.contains key = true := by rw [← hsome, hkept, Option.isSome_some]
      simp [hkept, hnew]

theorem Sample.foldlM_alignResult_entries (tombstones : List Tombstone) :
    s.results.entries.foldlM (s.alignResult old new) (∅, tombstones) =
      .ok ((s.reconcile old new).results, tombstones ++ s.tombstones old new) := by
  have hresults := KeyedMap.ofList_entries (s.reconcile old new).results
  rw [foldlM_alignResult, tombstones_eq, ← hresults]
  rfl

/-- So every sample is brought in line, and the tombstones come in the order of the samples. -/
theorem alignSamples_eq (tombstones : List Tombstone) (samples : List Sample) :
    alignSamples old new tombstones samples =
      .ok (samples.map (Sample.reconcile old new),
        tombstones ++ samples.flatMap (Sample.tombstones old new)) := by
  induction samples generalizing tombstones with
  | nil => rw [alignSamples, List.map_nil, List.flatMap_nil, List.append_nil]
  | cons s rest ih =>
    rw [alignSamples, Sample.foldlM_alignResult_entries]
    show alignSamples old new _ rest >>= _ = _
    rw [ih, List.append_assoc]
    rfl

end Align

section Apply

variable {a : Audit} {new : RuleFile}

theorem Audit.applyRuleFile_of_invalid (report : ChangeReport) {e : RuleFileError}
    (h : new.validate = .error e) : a.applyRuleFile new report = .error (.invalidRuleFile e) := by
  simp only [applyRuleFile, h]

/-- With a valid file the report alone decides: after its check nothing is refused. -/
theorem Audit.applyRuleFile_of_valid (report : ChangeReport) (h : new.validate = .ok ()) :
    a.applyRuleFile new report = (report.verify a.ruleFile new).map fun _ => a.reconcile new := by
  simp only [applyRuleFile, h, alignSamples_eq]
  cases report.verify a.ruleFile new <;> rfl

theorem ChangeReport.verify_eq_ok_iff {report : ChangeReport} {old : RuleFile} :
    report.verify old new = .ok () ↔ Fingerprint.ruleFile old = report.baseFingerprint ∧
      Fingerprint.ruleFile new = report.targetFingerprint := by
  rw [verify]
  by_cases hbase : Fingerprint.ruleFile old = report.baseFingerprint
  · by_cases htarget : Fingerprint.ruleFile new = report.targetFingerprint
    · simp [hbase, htarget]
    · simp [hbase, htarget]
  · simp [hbase]

/-- Of a report only the fingerprints of the two rule files are checked. -/
theorem Audit.applyRuleFile_eq_ok_iff {report : ChangeReport} {next : Audit} :
    a.applyRuleFile new report = .ok next ↔ new.validate = .ok () ∧
      (Fingerprint.ruleFile a.ruleFile = report.baseFingerprint ∧
        Fingerprint.ruleFile new = report.targetFingerprint) ∧ next = a.reconcile new := by
  rw [← ChangeReport.verify_eq_ok_iff]
  cases hvalid : new.validate with
  | error e => simp [applyRuleFile_of_invalid report hvalid]
  | ok =>
    rw [applyRuleFile_of_valid report hvalid]
    cases hverify : report.verify a.ruleFile new with
    | error e => simp [Except.map]
    | ok => simp [Except.map, eq_comm]

/-- So a report is accepted by every audit with the rule file of the one it was made for, if the new
file is valid. -/
theorem Audit.applyRuleFile_of_ruleFile_eq {b : Audit} (hfile : b.ruleFile = a.ruleFile)
    (h : new.validate = .ok ()) :
    b.applyRuleFile new (a.changeReport new) = .ok (b.reconcile new) :=
  applyRuleFile_eq_ok_iff.mpr ⟨h, ⟨congrArg Fingerprint.ruleFile hfile, rfl⟩, rfl⟩

/-- The report on an update, applied at once, is accepted if the new file is valid. -/
theorem Audit.applyRuleFile_changeReport (h : new.validate = .ok ()) :
    a.applyRuleFile new (a.changeReport new) = .ok (a.reconcile new) :=
  applyRuleFile_of_ruleFile_eq rfl h

/-- Whatever the report, an accepted update leaves the reconciled audit. -/
theorem Audit.eq_reconcile_of_applyRuleFile {report : ChangeReport} {next : Audit}
    (h : a.applyRuleFile new report = .ok next) :
    new.validate = .ok () ∧ next = a.reconcile new := by
  obtain ⟨hvalid, -, hnext⟩ := applyRuleFile_eq_ok_iff.mp h
  exact ⟨hvalid, hnext⟩

end Apply

/-! ### A small audit -/

namespace Specimen

def images : Check where
  id := "images"
  condition := "There are images"
  criteria := [{ id := "alt", requirement := "Every image has a text alternative" }]

def kept : Requirement :=
  { key := "kept", title := "Kept", contentTypes := ["image"], checks := [images] }

def gone : Requirement := { key := "gone", title := "Gone", checks := [images] }

def back : Requirement := { key := "back", title := "Back", checks := [images] }

def first : RuleFile := { metadata := { version := "1" }, requirements := [kept, gone] }

/-- The next rule file: one requirement gone, one with another title, and one that is new. -/
def second : RuleFile :=
  { metadata := { version := "2" }, requirements := [{ kept with title := "Still kept" }, back] }

/-- Two samples of one id; the results of the first stand under keys that both rule files define, or
one of them, or none. -/
def audit : Audit where
  ruleFile := first
  samples :=
    [{ id := "page"
       results := .ofList [("back", {}), ("gone", { needsReview := true }),
        ("kept", { observation := "No text on the logo" }), ("odd", {})] },
     { id := "page", results := .ofList [("gone", {})] }]

end Specimen

end Conformance
