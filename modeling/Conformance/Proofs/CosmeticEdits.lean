import Conformance.Proofs.ChangeAspects
import Conformance.Proofs.Validity
import Mathlib.Data.Multiset.MapFold
import Mathlib.Logic.Relation

/-! Cosmetic edits of a rule file: other labels, another order of the requirements, the same
content types written otherwise, white space around texts. Whatever chain of them leads from one new
rule file to another, an update to either does the same to the stored results and reports the same
effect. What the edits keep is the version and the key and content of each requirement, in any order,
and an update reads nothing else. -/

namespace Conformance

/-! ### The edits -/

/-- The second text is the first with white space put around it. -/
def Text.Pads (s t : String) : Prop :=
  ∃ front back : String, isBlank front = true ∧ isBlank back = true ∧ t = front ++ s ++ back

structure Criterion.Pads (p q : Criterion) : Prop where
  id : p.id = q.id
  requirement : Text.Pads p.requirement q.requirement
  failureTemplate : Text.Pads p.failureTemplate q.failureTemplate

structure Check.Pads (c d : Check) : Prop where
  id : c.id = d.id
  condition : Text.Pads c.condition d.condition
  logic : c.logic = d.logic
  criteria : List.Forall₂ Criterion.Pads c.criteria d.criteria

/-- A single cosmetic edit of a requirement. -/
inductive Requirement.CosmeticEdit (r : Requirement) : Requirement → Prop
  | labels (id title standardReference : String) (infoBlocks : KeyedMap String) (metadata : Json) :
    CosmeticEdit r { r with id, title, standardReference, infoBlocks, metadata }
  | contentTypeOrder {types : List String} (h : r.contentTypes.Perm types) :
    CosmeticEdit r { r with contentTypes := types }
  | contentTypeAgain {t : String} (h : t ∈ r.contentTypes) :
    CosmeticEdit r { r with contentTypes := t :: r.contentTypes }
  | contentTypeBlank {t : String} (h : Text.isBlank t = true) :
    CosmeticEdit r { r with contentTypes := t :: r.contentTypes }
  | contentTypePadding {types : List String} (h : List.Forall₂ Text.Pads r.contentTypes types) :
    CosmeticEdit r { r with contentTypes := types }
  | checkPadding {checks : List Check} (h : List.Forall₂ Check.Pads r.checks checks) :
    CosmeticEdit r { r with checks }

/-- A single cosmetic edit of a rule file. Of the metadata only the version matters. -/
inductive RuleFile.CosmeticEdit (f : RuleFile) : RuleFile → Prop
  | order {rs : List Requirement} (h : f.requirements.Perm rs) :
    CosmeticEdit f { f with requirements := rs }
  | requirement {front back : List Requirement} {r t : Requirement}
    (hf : f.requirements = front ++ r :: back) (h : r.CosmeticEdit t) :
    CosmeticEdit f { f with requirements := front ++ t :: back }
  | metadata {m : RuleFileMetadata} (h : m.version = f.version) :
    CosmeticEdit f { f with metadata := m }

/-- Two reports of the same effect on an audit. Added requirements may stand in another order, and
the entries for updated ones may show other labels. -/
structure ChangeReport.SameEffect (report other : ChangeReport) : Prop where
  added : (report.added.map (·.key)).Perm (other.added.map (·.key))
  updated : report.updated.map (fun u => (u.key, u.aspects, u.affectedSampleIds)) =
    other.updated.map fun u => (u.key, u.aspects, u.affectedSampleIds)
  removed : report.removed = other.removed
  orphaned : report.orphaned = other.orphaned
  reappearing : report.reappearing = other.reappearing
  dataWillBeLost : report.dataWillBeLost = other.dataWillBeLost
  flaggedResultCount : report.flaggedResultCount = other.flaggedResultCount

/-! ### What the edits keep -/

section Kept

variable {s t : String} {r r' : Requirement} {f g : RuleFile}

theorem Text.Pads.trim_eq (h : Text.Pads s t) : Text.trim s = Text.trim t := by
  obtain ⟨front, back, hfront, hback, rfl⟩ := h
  exact (Text.trim_append_append hfront hback s).symm

theorem Criterion.Pads.normal_eq {p q : Criterion} (h : p.Pads q) : p.normal = q.normal := by
  rw [normal, normal, h.requirement.trim_eq, h.failureTemplate.trim_eq]
  cases p
  cases q
  cases h.id
  rfl

theorem Check.Pads.normal_eq {c d : Check} (h : c.Pads d) : c.normal = d.normal := by
  have hcriteria : c.criteria.map Criterion.normal = d.criteria.map Criterion.normal :=
    map_eq_map_iff_forall₂.mpr (h.criteria.imp fun _ _ => Criterion.Pads.normal_eq)
  rw [normal, normal, h.condition.trim_eq, hcriteria]
  cases c
  cases d
  cases h.id
  cases h.logic
  rfl

/-- Of the content types of a requirement only the trimmed texts matter that are not empty. -/
theorem Requirement.contentTypeSet_congr (h : ∀ t, t ≠ "" →
    (t ∈ r.contentTypes.map Text.trim ↔ t ∈ r'.contentTypes.map Text.trim)) :
    r.contentTypeSet = r'.contentTypeSet := by
  ext t
  simp only [Fingerprint.mem_contentTypeSet, Fingerprint.mem_contentTypes, ← List.mem_map]
  exact and_congr_right (h t)

theorem Requirement.CosmeticEdit.contentTypeSet_eq (h : r.CosmeticEdit r') :
    r.contentTypeSet = r'.contentTypeSet := by
  cases h with
  | labels => rfl
  | contentTypeOrder h => exact contentTypeSet_congr fun _ _ => (h.map Text.trim).mem_iff
  | contentTypeAgain h =>
    refine contentTypeSet_congr fun s _ => ?_
    simp only [List.map_cons, List.mem_cons, iff_or_self]
    rintro rfl
    exact List.mem_map_of_mem h
  | contentTypeBlank h =>
    refine contentTypeSet_congr fun s hs => ?_
    rw [List.map_cons, Text.trim_eq_empty_iff.mpr h, List.mem_cons, or_iff_right hs]
  | contentTypePadding h =>
    refine contentTypeSet_congr fun s _ => ?_
    rw [map_eq_map_iff_forall₂.mpr (h.imp fun _ _ => Text.Pads.trim_eq)]
  | checkPadding => rfl

theorem Requirement.CosmeticEdit.content_eq (h : r.CosmeticEdit r') :
    r.key = r'.key ∧ r.content = r'.content := by
  have hchecks : r.key = r'.key ∧ r.checks.map Check.normal = r'.checks.map Check.normal := by
    cases h with
    | checkPadding h =>
      exact ⟨rfl, map_eq_map_iff_forall₂.mpr (h.imp fun _ _ => Check.Pads.normal_eq)⟩
    | _ => exact ⟨rfl, rfl⟩
  refine ⟨hchecks.1, ?_⟩
  rw [content, content, h.contentTypeSet_eq, hchecks.2]

/-- What an update reads of a new rule file whose keys are distinct. -/
def RuleFile.substance (f : RuleFile) : String × Multiset (String × Requirement.Content) :=
  (f.version, f.requirements.map fun r => (r.key, r.content))

theorem RuleFile.CosmeticEdit.substance_eq (h : f.CosmeticEdit g) : f.substance = g.substance := by
  cases h with
  | order h => exact congrArg (f.version, ·) (Multiset.coe_eq_coe.mpr (h.map _))
  | requirement hf h =>
    obtain ⟨hkey, hcontent⟩ := h.content_eq
    simp only [substance, hf, List.map_append, List.map_cons, hkey, hcontent]
    rfl
  | metadata h => exact congrArg (·, _) h.symm

theorem RuleFile.substance_of_cosmetic (h : Relation.EqvGen RuleFile.CosmeticEdit f g) :
    f.substance = g.substance := by
  induction h with
  | rel _ _ hedit => exact hedit.substance_eq
  | refl => rfl
  | symm _ _ _ ih => exact ih.symm
  | trans _ _ _ _ _ ihleft ihright => exact ihleft.trans ihright

/-- Edits of a requirement one after the other are edits of any rule file that contains it. -/
theorem RuleFile.cosmetic_of_requirement (h : Relation.EqvGen Requirement.CosmeticEdit r r')
    (metadata : RuleFileMetadata) (front back : List Requirement) :
    Relation.EqvGen RuleFile.CosmeticEdit ⟨metadata, front ++ r :: back⟩
      ⟨metadata, front ++ r' :: back⟩ := by
  induction h with
  | rel _ _ hedit => exact .rel _ _ (.requirement rfl hedit)
  | refl => exact .refl _
  | symm _ _ _ ih => exact .symm _ _ ih
  | trans _ _ _ _ _ ihleft ihright => exact .trans _ _ _ ihleft ihright

end Kept

/-! ### What an update reads -/

section Read

variable {old new new' : RuleFile} {key : String}

theorem RuleFile.entries_perm_of_substance (h : new.substance = new'.substance) :
    (new.requirements.map fun r => (r.key, r.content)).Perm
      (new'.requirements.map fun r => (r.key, r.content)) :=
  Multiset.coe_eq_coe.mp (congrArg Prod.snd h)

theorem RuleFile.keys_perm_of_substance (h : new.substance = new'.substance) :
    new.keys.Perm new'.keys := by
  have hkeys := (entries_perm_of_substance h).map Prod.fst
  rwa [List.map_map, List.map_map] at hkeys

theorem RuleFile.validate_of_substance (h : new.substance = new'.substance)
    (hnew : new.validate = .ok ()) : new'.validate = .ok () := by
  have hperm := keys_perm_of_substance h
  rw [validate_eq_ok_iff] at hnew ⊢
  exact ⟨fun key hkey => hnew.1 key (hperm.mem_iff.mpr hkey), hperm.nodup_iff.mp hnew.2⟩

theorem RuleFile.map_content_eq_some_iff {f : RuleFile} (hkeys : f.keys.Nodup)
    {content : Requirement.Content} :
    (f.requirement? key).map Requirement.content = some content ↔
      (key, content) ∈ f.requirements.map fun r => (r.key, r.content) := by
  simp only [Option.map_eq_some_iff, List.mem_map, Prod.mk.injEq]
  constructor
  · rintro ⟨r, hr, hcontent⟩
    exact ⟨r, mem_of_requirement? hr, key_of_requirement? hr, hcontent⟩
  · rintro ⟨r, hr, rfl, hcontent⟩
    exact ⟨r, requirement?_of_mem hkeys hr, hcontent⟩

theorem RuleFile.map_content_of_substance (h : new.substance = new'.substance)
    (hkeys : new.keys.Nodup) (key : String) : (new.requirement? key).map Requirement.content =
      (new'.requirement? key).map Requirement.content := by
  have hkeys' : new'.keys.Nodup := (keys_perm_of_substance h).nodup_iff.mp hkeys
  ext content
  rw [map_content_eq_some_iff hkeys, map_content_eq_some_iff hkeys']
  exact (entries_perm_of_substance h).mem_iff

theorem RuleFile.contains_of_substance (h : new.substance = new'.substance) (key : String) :
    new.contains key = new'.contains key := by
  rw [Bool.eq_iff_iff, contains_iff, contains_iff]
  exact (keys_perm_of_substance h).mem_iff

theorem disposition_of_substance (h : new.substance = new'.substance) (hkeys : new.keys.Nodup)
    (key : String) : disposition old new key = disposition old new' key :=
  disposition_congr rfl (lookup_congr (fun _ _ => Fingerprint.requirement_congr)
    (RuleFile.map_content_of_substance h hkeys key))

end Read

/-! ### What the report shows -/

section Report

theorem Criterion.normal_normal (p : Criterion) : p.normal.normal = p.normal := by
  simp only [normal, Text.trim_trim]

theorem Check.criteriaDiffer_normal (c d : Check) :
    c.criteriaDiffer d.normal = c.criteriaDiffer d := by
  rw [Bool.eq_iff_iff, ← not_iff_not, Bool.not_eq_true, Bool.not_eq_true,
    criteriaDiffer_eq_false_iff, criteriaDiffer_eq_false_iff, normal, List.map_map]
  simp only [Function.comp_def, Criterion.normal_normal]

theorem Requirement.aspectsOf_normal (old : Requirement) (d : Check) :
    old.aspectsOf d.normal = old.aspectsOf d := by
  have hchanges : ∀ c : Check, c.changeAspects d.normal = c.changeAspects d := by
    intro c
    rw [Check.changeAspects, Check.criteriaDiffer_normal]
    simp only [Check.normal, Text.trim_trim, Check.changeAspects]
    rfl
  simp only [aspectsOf, hchanges]
  rfl

/-- The aspects of a change depend on the content of the new definition. -/
theorem Requirement.changeAspects_of_content (old : Requirement) {r t : Requirement}
    (h : r.content = t.content) : old.changeAspects r = old.changeAspects t := by
  obtain ⟨hset, hchecks⟩ := Content.mk.inj h
  have hids : r.checkIds = t.checkIds := map_id_of_map_normal hchecks
  have haspects : r.checks.flatMap old.aspectsOf = t.checks.flatMap old.aspectsOf := by
    simpa [List.flatMap_map, aspectsOf_normal] using congrArg (List.flatMap old.aspectsOf) hchecks
  rw [changeAspects_eq, changeAspects_eq, Fingerprint.scope_congr hset, hids, haspects]

variable {a : Audit} {new new' : RuleFile}

theorem Audit.updatedEntry_of_substance (h : new.substance = new'.substance)
    (hkeys : new.keys.Nodup) (old : Requirement) :
    (a.updatedEntry new old).map (fun u => (u.key, u.aspects, u.affectedSampleIds)) =
      (a.updatedEntry new' old).map fun u => (u.key, u.aspects, u.affectedSampleIds) := by
  rcases lookup_cases (RuleFile.map_content_of_substance h hkeys old.key) with
    ⟨hr, ht⟩ | ⟨r, t, hr, ht, hcontent⟩
  · rw [updatedEntry, updatedEntry, hr, ht]
  · have hkey : r.key = t.key :=
      (RuleFile.key_of_requirement? hr).trans (RuleFile.key_of_requirement? ht).symm
    rw [updatedEntry, updatedEntry, hr, ht]
    simp only [Option.bind_eq_bind, Option.bind_some, Fingerprint.requirement_congr hcontent,
      old.changeAspects_of_content hcontent, hkey]
    split <;> rfl

theorem Audit.sameEffect_of_substance (h : new.substance = new'.substance)
    (hkeys : new.keys.Nodup) : (a.changeReport new).SameEffect (a.changeReport new') := by
  have hcontains : new.contains = new'.contains := funext (RuleFile.contains_of_substance h)
  have hupdated : (a.changeReport new).updated.map
        (fun u => (u.key, u.aspects, u.affectedSampleIds)) =
      (a.changeReport new').updated.map fun u => (u.key, u.aspects, u.affectedSampleIds) := by
    simp only [changeReport, List.map_filterMap, updatedEntry_of_substance h hkeys]
  have hremoved : (a.changeReport new).removed = (a.changeReport new').removed := by
    simp only [removed_changeReport, hcontains]
  have horphaned : (a.changeReport new).orphaned = (a.changeReport new').orphaned := by
    simp only [changeReport, hcontains]
  have hreappearing : (a.changeReport new).reappearing = (a.changeReport new').reappearing := by
    simp only [changeReport, hcontains]
  constructor
  case added =>
    rw [keys_added, keys_added]
    exact (RuleFile.keys_perm_of_substance h).filter _
  case updated => exact hupdated
  case removed => exact hremoved
  case orphaned => exact horphaned
  case reappearing => exact hreappearing
  case dataWillBeLost =>
    rw [ChangeReport.dataWillBeLost, ChangeReport.dataWillBeLost, hremoved, horphaned]
  case flaggedResultCount =>
    have haffected := congrArg (List.flatMap fun u => u.2.2) hupdated
    rw [List.flatMap_map, List.flatMap_map] at haffected
    rw [ChangeReport.flaggedResultCount, ChangeReport.flaggedResultCount, hreappearing]
    exact congrArg (·.length + _) haffected

end Report

/-- A new rule file and any cosmetic edit of it do the same to the stored results, and their reports
tell of the same effect. If one of the two is valid, so is the other. -/
theorem Audit.update_of_cosmetic (a : Audit) {new new' : RuleFile}
    (hedits : Relation.EqvGen RuleFile.CosmeticEdit new new') (hnew : new.validate = .ok ()) :
    ∃ next next', a.applyRuleFile new (a.changeReport new) = .ok next ∧
      a.applyRuleFile new' (a.changeReport new') = .ok next' ∧
      next.samples = next'.samples ∧ next.tombstones = next'.tombstones ∧
      (a.changeReport new).SameEffect (a.changeReport new') := by
  have hsubstance := RuleFile.substance_of_cosmetic hedits
  have hkeys := RuleFile.keys_nodup_of_validate hnew
  obtain ⟨hsamples, htombstones⟩ := a.reconcile_congr (congrArg Prod.fst hsubstance)
    (disposition_of_substance hsubstance hkeys)
  exact ⟨_, _, applyRuleFile_changeReport hnew,
    applyRuleFile_changeReport (RuleFile.validate_of_substance hsubstance hnew), hsamples,
    htombstones, sameEffect_of_substance hsubstance hkeys⟩

namespace Specimen

/-- The second rule file again, in another order, with other labels, and with white space and
idle content types. -/
def restyledSecond : RuleFile :=
  { metadata := { version := "2", title := "Second" }
    requirements :=
      [{ back with id := "b", title := "Returned" },
       { kept with
          title := "Still kept"
          contentTypes := [" ", "image", "image\t"]
          checks := [{ images with condition := " There are images\n" }] }] }

theorem second_restyled : Relation.EqvGen RuleFile.CosmeticEdit second restyledSecond := by
  have hplain : ∀ s, Text.Pads s s := fun s => ⟨"", "", rfl, rfl, by simp⟩
  have htype : Text.Pads "image" "image\t" := ⟨"", "\t", rfl, rfl, rfl⟩
  have hcondition : Text.Pads "There are images" " There are images\n" :=
    ⟨" ", "\n", rfl, rfl, rfl⟩
  have hcheck : images.Pads { images with condition := " There are images\n" } :=
    ⟨rfl, hcondition, rfl, .cons ⟨rfl, hplain _, hplain _⟩ .nil⟩
  have hback : Relation.EqvGen Requirement.CosmeticEdit back
      { back with id := "b", title := "Returned" } :=
    .rel _ _ (.labels "b" "Returned" "" ∅ .null)
  have hkept : Relation.EqvGen Requirement.CosmeticEdit { kept with title := "Still kept" }
      { kept with
        title := "Still kept"
        contentTypes := [" ", "image", "image\t"]
        checks := [{ images with condition := " There are images\n" }] } := by
    refine .trans _ _ _ (.rel _ _ (.contentTypeAgain (t := "image") (by decide))) ?_
    refine .trans _ _ _ (.rel _ _ (.contentTypePadding (.cons (hplain _) (.cons htype .nil)))) ?_
    refine .trans _ _ _ (.rel _ _ (.contentTypeBlank (t := " ") (by decide))) ?_
    exact .rel _ _ (.checkPadding (.cons hcheck .nil))
  refine .trans _ _ _ (.rel _ _ (.metadata (m := { version := "2", title := "Second" }) rfl)) ?_
  refine .trans _ _ _ (.rel _ _ (.order (.swap _ _ _))) ?_
  refine .trans _ _ _ (RuleFile.cosmetic_of_requirement hback _ [] _) ?_
  exact RuleFile.cosmetic_of_requirement hkept _ [_] []

theorem restyled_same_effect : Relation.EqvGen RuleFile.CosmeticEdit second restyledSecond ∧
    second.validate = .ok () ∧
    ∃ next next', audit.applyRuleFile second (audit.changeReport second) = .ok next ∧
      audit.applyRuleFile restyledSecond (audit.changeReport restyledSecond) = .ok next' ∧
      next.samples = next'.samples ∧ next.tombstones = next'.tombstones ∧
      (audit.changeReport second).SameEffect (audit.changeReport restyledSecond) := by
  have hvalid : second.validate = .ok () := by decide
  exact ⟨second_restyled, hvalid, audit.update_of_cosmetic second_restyled hvalid⟩

end Specimen

end Conformance
