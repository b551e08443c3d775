import Conformance.Proofs.ContentIdentity

/-! A report belongs to one pair of rule files. Everything that an update reads of the two files is
part of their content, which the fingerprints in the report identify. So where a report is accepted
for another pair, that pair has the same content, and the update is the same one. -/

namespace Conformance

section Congruence

variable {f g old old' new new' : RuleFile} {key : String}

theorem RuleFile.map_entry_requirement? (f : RuleFile) (key : String) :
    (f.requirement? key).map Requirement.entry =
      f.content.entries.find? fun e => e.1 == key := by
  rw [content, List.find?_map]
  rfl

theorem RuleFile.entry_of_content (h : f.content = g.content) (key : String) :
    (f.requirement? key).map Requirement.entry = (g.requirement? key).map Requirement.entry := by
  rw [map_entry_requirement?, h, map_entry_requirement?]

theorem RuleFile.keys_of_content (h : f.content = g.content) : f.keys = g.keys := by
  have hkeys : ∀ f : RuleFile, f.keys = f.content.entries.map (·.1) := by
    intro f
    rw [keys, content, List.map_map]
    rfl
  rw [hkeys, h, hkeys]

theorem RuleFile.validate_of_content (h : f.content = g.content) : f.validate = g.validate := by
  rw [validate, validate, keys_of_content h]

theorem disposition_of_content (hold : old.content = old'.content)
    (hnew : new.content = new'.content) (key : String) :
    disposition old new key = disposition old' new' key := by
  have hprint : ∀ r t : Requirement, r.entry = t.entry →
      r.title = t.title ∧ Fingerprint.requirement r = Fingerprint.requirement t := by
    intro r t h
    simp only [Requirement.entry, Prod.mk.injEq] at h
    exact ⟨h.2.1, Fingerprint.requirement_congr h.2.2⟩
  exact disposition_congr
    (lookup_congr (fun r t h => Prod.ext_iff.mpr (hprint r t h)) (RuleFile.entry_of_content hold key))
    (lookup_congr (fun r t h => (hprint r t h).2) (RuleFile.entry_of_content hnew key))

/-- An update depends on the content of the two rule files alone. -/
theorem Audit.reconcile_of_content {a : Audit} (hold : old.content = a.ruleFile.content)
    (hnew : new.content = new'.content) :
    ({ a with ruleFile := old }.reconcile new).samples = (a.reconcile new').samples ∧
      ({ a with ruleFile := old }.reconcile new).tombstones = (a.reconcile new').tombstones :=
  reconcile_congr { a with ruleFile := old } (congrArg RuleFile.Content.version hnew)
    (disposition_of_content hold hnew)

end Congruence

/-- A report that is accepted in an update of another audit to another file was made for rule files
of the same content as these, unless two of the byte strings hashed for them collide. With the same
content, the same report is accepted for the files that it was made for as well, and does the same. -/
theorem Audit.report_binds_rule_files {a b next : Audit} {new new' : RuleFile}
    (ha : a.ruleFile.Fits) (hb : b.ruleFile.Fits) (hnew : new.Fits) (hnew' : new'.Fits)
    (h : b.applyRuleFile new' (a.changeReport new) = .ok next) :
    (a.ruleFile.content = b.ruleFile.content ∨ Fingerprint.Collision
      (Fingerprint.hashedForAll a.ruleFile) (Fingerprint.hashedForAll b.ruleFile)) ∧
    (new.content = new'.content ∨ Fingerprint.Collision
      (Fingerprint.hashedForAll new) (Fingerprint.hashedForAll new')) ∧
    (a.ruleFile.content = b.ruleFile.content → new.content = new'.content → ∃ again,
      { b with ruleFile := a.ruleFile }.applyRuleFile new (a.changeReport new) = .ok again ∧
        again.samples = next.samples ∧ again.tombstones = next.tombstones) := by
  obtain ⟨hvalid, ⟨hbase, htarget⟩, rfl⟩ := applyRuleFile_eq_ok_iff.mp h
  refine ⟨Fingerprint.ruleFileContent_or_collision ha hb hbase.symm,
    Fingerprint.ruleFileContent_or_collision hnew hnew' htarget.symm, fun hold hsame => ?_⟩
  have hvalid' : new.validate = .ok () := (RuleFile.validate_of_content hsame).trans hvalid
  exact ⟨_, applyRuleFile_of_ruleFile_eq rfl hvalid', reconcile_of_content hold hsame⟩

namespace Specimen

/-- The second rule file again, with other identifiers and a content type written with white space. -/
def untidySecond : RuleFile :=
  { second with
    requirements :=
      [{ kept with title := "Still kept", contentTypes := [" image"] }, { back with id := "b" }] }

/-- The report of the specimen serves an audit with untidy rule files and other results. -/
theorem report_serves_untidy : ∃ b next : Audit,
    b.ruleFile = untidy ∧ b.samples ≠ audit.samples ∧
    audit.ruleFile.Fits ∧ b.ruleFile.Fits ∧ second.Fits ∧ untidySecond.Fits ∧
    b.applyRuleFile untidySecond (audit.changeReport second) = .ok next ∧
    ∃ again, { b with ruleFile := first }.applyRuleFile second (audit.changeReport second) =
        .ok again ∧ again.samples = next.samples ∧ again.tombstones = next.tombstones := by
  have hold : first.content = untidy.content := by decide
  have hnew : second.content = untidySecond.content := by decide
  have happly : { audit with ruleFile := untidy, samples := audit.samples.take 1 }.applyRuleFile
      untidySecond (audit.changeReport second) = .ok _ := Audit.applyRuleFile_eq_ok_iff.mpr
    ⟨by decide, ⟨(Fingerprint.ruleFile_congr hold).symm, (Fingerprint.ruleFile_congr hnew).symm⟩, rfl⟩
  have ha : first.Fits := by decide
  have hb : untidy.Fits := by decide
  have hsecond : second.Fits := by decide
  have huntidy : untidySecond.Fits := by decide
  exact ⟨_, _, rfl, by decide, ha, hb, hsecond, huntidy, happly,
    (Audit.report_binds_rule_files ha hb hsecond huntidy happly).2.2 hold hnew⟩

end Specimen

end Conformance
