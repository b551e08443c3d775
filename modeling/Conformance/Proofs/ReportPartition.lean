import Conformance.Proofs.Prediction

/-! The report as a comparison of two rule files by key. Where neither file repeats a key, the report
puts every key of the two into exactly one class, and lists each class in the order of the file that
it is read from. The report on the way back lists the same keys, with added and removed exchanged. -/

namespace Conformance

/-- What an update does to a key. -/
inductive KeyChange
  | added
  | updated
  | removed
  | unchanged
deriving DecidableEq, Repr

/-- What replacing `old` by `new` does to a key, by what is found under it in both. -/
def RuleFile.change? (old new : RuleFile) (key : String) : Option KeyChange :=
  match old.requirement? key, new.requirement? key with
  | none, none => none
  | none, some _ => some .added
  | some _, none => some .removed
  | some before, some after =>
    if Fingerprint.requirement before = Fingerprint.requirement after then some .unchanged
    else some .updated

/-- The two files define `key` with the same fingerprint. -/
def RuleFile.Keeps (old new : RuleFile) (key : String) : Prop :=
  ∃ before after, old.requirement? key = some before ∧ new.requirement? key = some after ∧
    Fingerprint.requirement before = Fingerprint.requirement after

namespace Audit

/-- The report puts `key` into this class. No list stands for the class of the unchanged keys. -/
def Classifies (a : Audit) (new : RuleFile) (key : String) : KeyChange → Prop
  | .added => key ∈ (a.changeReport new).added.map (·.key)
  | .updated => key ∈ (a.changeReport new).updated.map (·.key)
  | .removed => key ∈ (a.changeReport new).removed.map (·.key)
  | .unchanged => a.ruleFile.Keeps new key

/-- The lists of the report on an update to `new` divide the keys of both rule files, in order. -/
structure Partition (a : Audit) (new : RuleFile) : Prop where
  exactly_one : ∀ key,
    key ∈ a.ruleFile.keys ∨ key ∈ new.keys ↔ ∃! change, a.Classifies new key change
  added_nodup : ((a.changeReport new).added.map (·.key)).Nodup
  updated_nodup : ((a.changeReport new).updated.map (·.key)).Nodup
  removed_nodup : ((a.changeReport new).removed.map (·.key)).Nodup
  added_order : ((a.changeReport new).added.map (·.key)).Sublist new.keys
  updated_order : ((a.changeReport new).updated.map (·.key)).Sublist a.ruleFile.keys
  removed_order : ((a.changeReport new).removed.map (·.key)).Sublist a.ruleFile.keys

end Audit

/-- The second report says the same as the first in the opposite direction. -/
structure ChangeReport.Reverses (back report : ChangeReport) : Prop where
  added : back.added.map (fun x => (x.key, x.id, x.title)) =
    report.removed.map fun x => (x.key, x.id, x.title)
  removed : back.removed.map (fun x => (x.key, x.id, x.title)) =
    report.added.map fun x => (x.key, x.id, x.title)
  updated : (back.updated.map (·.key)).Perm (report.updated.map (·.key))
  fromVersion : back.fromVersion = report.toVersion
  toVersion : back.toVersion = report.fromVersion
  baseFingerprint : back.baseFingerprint = report.targetFingerprint
  targetFingerprint : back.targetFingerprint = report.baseFingerprint

/-! ### The lists of the report -/

section Lists

variable {a : Audit} {new : RuleFile}

/-- What the report shows of a requirement that only one of the files defines. -/
def Requirement.label (r : Requirement) : String × String × String := (r.key, r.displayId, r.title)

/-- The requirements of the first file whose keys the second lacks, in order. -/
def RuleFile.lackedBy (f other : RuleFile) : List Requirement :=
  f.requirements.filter fun r => !other.contains r.key

theorem Audit.labels_added : (a.changeReport new).added.map (fun x => (x.key, x.id, x.title)) =
    (new.lackedBy a.ruleFile).map Requirement.label := by
  simp only [changeReport, RuleFile.lackedBy, List.map_map]
  rfl

theorem Audit.labels_removed : (a.changeReport new).removed.map (fun x => (x.key, x.id, x.title)) =
    (a.ruleFile.lackedBy new).map Requirement.label := by
  rw [removed_changeReport, List.map_map]
  rfl

end Lists

/-! ### Classes -/

section Classes

variable {a : Audit} {old new : RuleFile} {key : String} {change : KeyChange}

theorem RuleFile.Redefines.symm (h : old.Redefines new key) : new.Redefines old key := by
  obtain ⟨before, after, hbefore, hafter, hne⟩ := h
  exact ⟨after, before, hafter, hbefore, hne.symm⟩

/-- What each class says about the two files. -/
def RuleFile.Undergoes (old new : RuleFile) (key : String) : KeyChange → Prop
  | .added => ¬old.contains key = true ∧ new.contains key = true
  | .updated => old.Redefines new key
  | .removed => old.contains key = true ∧ ¬new.contains key = true
  | .unchanged => old.Keeps new key

theorem RuleFile.change?_eq_some_iff :
    old.change? new key = some change ↔ old.Undergoes new key change := by
  simp only [change?, Undergoes, contains, Redefines, Keeps]
  cases old.requirement? key with
  | none => cases new.requirement? key <;> cases change <;> simp
  | some before =>
    cases new.requirement? key with
    | none => cases change <;> simp
    | some after =>
      by_cases heq : Fingerprint.requirement before = Fingerprint.requirement after
      · cases change <;> simp [heq]
      · cases change <;> simp [heq]

theorem RuleFile.isSome_change? :
    (old.change? new key).isSome ↔ key ∈ old.keys ∨ key ∈ new.keys := by
  rw [← contains_iff, ← contains_iff, contains, contains, change?]
  cases old.requirement? key with
  | none => cases new.requirement? key <;> simp
  | some before =>
    cases new.requirement? key with
    | none => simp
    | some after =>
      by_cases heq : Fingerprint.requirement before = Fingerprint.requirement after
      · simp [heq]
      · simp [heq]

theorem Audit.classifies_iff (hkeys : a.ruleFile.keys.Nodup) :
    a.Classifies new key change ↔ a.ruleFile.change? new key = some change := by
  rw [RuleFile.change?_eq_some_iff]
  cases change with
  | added => exact mem_added_keys
  | updated => exact mem_updated_keys hkeys
  | removed => exact mem_removed_keys
  | unchanged => exact .rfl

theorem Audit.partition_changeReport (hold : a.ruleFile.keys.Nodup) (hnew : new.keys.Nodup) :
    a.Partition new := by
  have hadded : ((a.changeReport new).added.map (·.key)).Sublist new.keys := by
    rw [keys_added]
    exact List.filter_sublist
  have hremoved : ((a.changeReport new).removed.map (·.key)).Sublist a.ruleFile.keys := by
    rw [keys_removed]
    exact List.filter_sublist
  constructor
  case exactly_one =>
    intro key
    simp only [classifies_iff hold, ← RuleFile.isSome_change?, Option.isSome_iff_exists]
    constructor
    · rintro ⟨change, h⟩
      exact ⟨change, h, fun other h' => Option.some.inj (h'.symm.trans h)⟩
    · rintro ⟨change, h, -⟩
      exact ⟨change, h⟩
  case added_nodup => exact hnew.sublist hadded
  case updated_nodup => exact updated_keys_nodup hold
  case removed_nodup => exact hold.sublist hremoved
  case added_order => exact hadded
  case updated_order => exact updated_keys_sublist
  case removed_order => exact hremoved

theorem Audit.reverses_changeReport (hold : a.ruleFile.keys.Nodup) (hnew : new.keys.Nodup) :
    ({ a with ruleFile := new }.changeReport a.ruleFile).Reverses (a.changeReport new) := by
  constructor
  case added => rw [labels_added, labels_removed]
  case removed => rw [labels_removed, labels_added]
  case updated =>
    refine (List.perm_ext_iff_of_nodup (updated_keys_nodup hnew) (updated_keys_nodup hold)).mpr ?_
    intro key
    rw [mem_updated_keys hnew, mem_updated_keys hold]
    exact ⟨.symm, .symm⟩
  all_goals rfl

/-- The report divides the keys of two rule files without repetitions, and the report on the way
back, over the same samples, divides them in the same way. -/
theorem Audit.report_partition_reverses (hold : a.ruleFile.keys.Nodup) (hnew : new.keys.Nodup) :
    a.Partition new ∧
      ({ a with ruleFile := new }.changeReport a.ruleFile).Reverses (a.changeReport new) :=
  ⟨partition_changeReport hold hnew, reverses_changeReport hold hnew⟩

end Classes

namespace Specimen

/-- The next rule file, with one requirement less to check and the others as they were. -/
def third : RuleFile :=
  { metadata := { version := "3" }, requirements := [back, { kept with checks := [] }, gone] }

theorem partition_of_third : audit.ruleFile.keys.Nodup ∧ third.keys.Nodup ∧
    audit.Partition third ∧
    ({ audit with ruleFile := third }.changeReport audit.ruleFile).Reverses
      (audit.changeReport third) := by
  have hold : audit.ruleFile.keys.Nodup := by decide
  have hnew : third.keys.Nodup := by decide
  exact ⟨hold, hnew, Audit.report_partition_reverses hold hnew⟩

end Specimen

end Conformance
