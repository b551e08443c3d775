import Conformance.Proofs.KeyRenaming

/-! A rule file offered as a replacement, and the same document stored as the rule file of an audit.
One reader serves both. What is offered must have keys that can index results, and what is stored
has its repeated keys renamed, so that an audit always loads. The two therefore part only over blank
and repeated keys. -/

namespace Conformance

/-- Whether an error is about keys, in a rule file that can be read otherwise. -/
def RuleFileError.isAboutKeys : RuleFileError → Bool
  | .emptyKey _ => true
  | .duplicateKey _ => true
  | _ => false

namespace RuleFile

theorem isAboutKeys_of_validate {f : RuleFile} {e : RuleFileError} (h : f.validate = .error e) :
    e.isAboutKeys = true := by
  obtain ⟨i, key, -, -, rfl⟩ := exists_isLeast_of_validate h
  unfold offence
  split <;> rfl

end RuleFile

namespace Loading

/-- A stored audit with a rule file and nothing else. -/
def storedAlone (j : Json) : Json := .object [("ruleFileContent", j)]

variable {j : Json} {f : RuleFile} {e : RuleFileError}

theorem audit_storedAlone_of_decode (h : decodeRuleFile j = .ok f) : audit (storedAlone j) =
    .ok { ruleFile := f.makeKeysUnique, samples := [], tombstones := [] } :=
  audit_of_decode (j := storedAlone j) h

theorem audit_storedAlone_of_error (h : decodeRuleFile j = .error e) :
    audit (storedAlone j) = .error e :=
  audit_of_error (j := storedAlone j) h

theorem ruleFile_of_validate (h : decodeRuleFile j = .ok f) (hvalid : f.validate = .ok ()) :
    ruleFile j = .ok f := by
  rw [ruleFile, h]
  show (f.validate >>= fun _ => pure f) = _
  rw [hvalid]
  rfl

theorem ruleFile_of_validate_error (h : decodeRuleFile j = .ok f)
    (hinvalid : f.validate = .error e) : ruleFile j = .error e := by
  rw [ruleFile, h]
  show (f.validate >>= fun _ => pure f) = _
  rw [hinvalid]
  rfl

theorem ruleFile_of_error (h : decodeRuleFile j = .error e) : ruleFile j = .error e := by
  rw [ruleFile, h]
  rfl

theorem isAboutKeys_of_decodeRuleFile (h : decodeRuleFile j = .error e) :
    e.isAboutKeys = false := by
  cases j with
  | object o =>
    simp only [decodeRuleFile] at h
    split at h
    · cases h
    · obtain rfl := Except.error.inj h
      rfl
  | _ =>
    obtain rfl := Except.error.inj h
    rfl

/-- A rule file that is accepted when offered loads as it is when stored. One that cannot be read
fails alike in both. One that is refused for its keys loads with all its requirements, in which
nothing but keys has changed. -/
theorem audit_follows_ruleFile (j : Json) :
    (∀ f, ruleFile j = .ok f →
      audit (storedAlone j) = .ok { ruleFile := f, samples := [], tombstones := [] }) ∧
    (∀ e, audit (storedAlone j) = .error e ↔ ruleFile j = .error e ∧ e.isAboutKeys = false) ∧
    (∀ e, ruleFile j = .error e → e.isAboutKeys = true → ∃ f a, decodeRuleFile j = .ok f ∧
      f.validate = .error e ∧ audit (storedAlone j) = .ok a ∧ f.SameButKeys a.ruleFile) := by
  cases hdecode : decodeRuleFile j with
  | error e =>
    rw [audit_storedAlone_of_error hdecode, ruleFile_of_error hdecode]
    have hother := isAboutKeys_of_decodeRuleFile hdecode
    refine ⟨nofun, fun e' => ?_, fun e' h hkeys => ?_⟩
    · simp only [Except.error.injEq, iff_self_and]
      rintro rfl
      exact hother
    · obtain rfl := Except.error.inj h
      cases hother.symm.trans hkeys
  | ok f =>
    rw [audit_storedAlone_of_decode hdecode]
    cases hvalid : f.validate with
    | ok =>
      rw [ruleFile_of_validate hdecode hvalid]
      have hsame := RuleFile.makeKeysUnique_eq_self (RuleFile.keys_nodup_of_validate hvalid)
      refine ⟨fun f' h => ?_, fun e => ⟨nofun, fun h => nomatch h.1⟩, nofun⟩
      rw [hsame, Except.ok.inj h]
    | error e =>
      rw [ruleFile_of_validate_error hdecode hvalid]
      have hkeys := RuleFile.isAboutKeys_of_validate hvalid
      refine ⟨nofun, fun e' => ⟨nofun, fun ⟨h, hother⟩ => ?_⟩, fun e' h _ => ?_⟩
      · obtain rfl := Except.error.inj h
        cases hother.symm.trans hkeys
      · obtain rfl := Except.error.inj h
        exact ⟨f, _, rfl, hvalid, rfl, f.sameButKeys_makeKeysUnique⟩

end Loading

namespace Specimen

/-- Two requirements with one id. -/
def twins : Json :=
  .object [("requirements", .array [.object [("id", .text "1.1"), ("title", .text "First")],
    .null, .object [("id", .text "1.1"), ("title", .text "Second")]])]

/-- A requirement with a number as its id, under a blank member name. -/
def single : Json :=
  .object [("requirements", .object [("", .object [("id", .number (.integer 7))])])]

theorem single_and_twins_load : (∃ f, Loading.ruleFile single = .ok f ∧ f.keys = ["7"] ∧
      Loading.audit (Loading.storedAlone single) =
        .ok { ruleFile := f, samples := [], tombstones := [] }) ∧
    Loading.ruleFile twins = .error (.duplicateKey "1.1") ∧
    ∃ f a, Loading.decodeRuleFile twins = .ok f ∧ f.keys = ["1.1", "1.1"] ∧
      Loading.audit (Loading.storedAlone twins) = .ok a ∧ a.ruleFile.keys = ["1.1", "1.1-1"] ∧
      f.SameButKeys a.ruleFile := by
  obtain ⟨g, hg⟩ : ∃ g, Loading.ruleFile single = .ok g := ⟨_, rfl⟩
  have hkey : g.keys = ["7"] := by
    obtain rfl := Except.ok.inj hg
    decide
  have haccepted := (Loading.audit_follows_ruleFile single).1 g hg
  have hrefused : Loading.ruleFile twins = .error (.duplicateKey "1.1") := rfl
  obtain ⟨f, a, hf, -, ha, hsame⟩ :=
    (Loading.audit_follows_ruleFile twins).2.2 _ hrefused rfl
  have hkeys : f.keys = ["1.1", "1.1"] := by
    obtain rfl := Except.ok.inj hf
    decide
  have hkeys' : a.ruleFile.keys = ["1.1", "1.1-1"] := by
    obtain rfl := Except.ok.inj ha
    decide
  exact ⟨⟨g, hg, hkey, haccepted⟩, hrefused, f, a, hf, hkeys, ha, hkeys', hsame⟩

end Specimen

end Conformance
