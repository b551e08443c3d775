import Conformance.Config
import Conformance.Proofs.Sections
import Conformance.Proofs.Text

/-! A configuration that is written down reads back as it was. The policy and the level are checked
in lower case, the policy without the white space around it, but kept and written as they were
given; so any white space and any letter case come back from the document. -/

namespace Conformance

open Toml

theorem OrphanRetention.ofText?_eq_some_iff {text : String} {p : OrphanRetention} :
    ofText? text = some p ↔ Text.Spells text (Named.name p) := by
  have hname : Text.trim (Named.name p) = Named.name p := by
    cases p <;> decide
  rw [← Text.lower_trim_eq_iff hname]
  simp only [ofText?, Named.ofName?, Named.all, Named.name, List.find?_cons, List.find?_nil]
  cases p <;> grind

namespace Config

theorem validate_eq_ok_iff {c : Config} : c.validate = .ok () ↔
    (∃ p : OrphanRetention, Text.Spells c.sampleEdit.orphanRetention (Named.name p)) ∧
      Text.lower c.observability.logLevel ∈ logLevels := by
  have hretention : (OrphanRetention.ofText? c.sampleEdit.orphanRetention).isSome ↔
      ∃ p : OrphanRetention, Text.Spells c.sampleEdit.orphanRetention (Named.name p) := by
    simp only [Option.isSome_iff_exists, OrphanRetention.ofText?_eq_some_iff]
  rw [← hretention, ← List.contains_iff_mem]
  unfold validate
  cases OrphanRetention.ofText? c.sampleEdit.orphanRetention with
  | none => simp
  | some p => cases hlevel : logLevels.contains (Text.lower c.observability.logLevel) <;> simp

/-! ### The document of a configuration -/

theorem denotes_printFlag (b : Bool) : Denotes (.boolean b) (printFlag b).toList := by
  intro rest
  cases b <;> rfl

def sections (c : Config) : List Section :=
  [{ name := "problems"
     entries :=
      [{ key := "include_unfailed_stuck", value := .boolean c.problems.includeUnfailedStuck
         written := (printFlag c.problems.includeUnfailedStuck).toList }] },
   { name := "sample_edit"
     entries :=
      [{ key := "orphan_retention", value := .text c.sampleEdit.orphanRetention
         written := (printText c.sampleEdit.orphanRetention).toList }] },
   { name := "observability"
     entries :=
      [{ key := "log_level", value := .text c.observability.logLevel
         written := (printText c.observability.logLevel).toList },
       { key := "json", value := .boolean c.observability.json
         written := (printFlag c.observability.json).toList }] }]

theorem wellFormed_sections (c : Config) : ∀ t ∈ c.sections, t.WellFormed := by
  have hflag := denotes_printFlag
  have htext := denotes_printText
  simp only [sections, List.forall_mem_cons]
  refine ⟨⟨?_, ?_, by simp [hflag]⟩, ⟨?_, ?_, by simp [htext]⟩, ⟨?_, ?_, by simp [hflag, htext]⟩,
    by simp⟩
  · show ∀ name ∈ ["problems", "include_unfailed_stuck"], IsBare name
    decide
  · show ["include_unfailed_stuck"].Nodup
    decide
  · show ∀ name ∈ ["sample_edit", "orphan_retention"], IsBare name
    decide
  · show ["orphan_retention"].Nodup
    decide
  · show ∀ name ∈ ["observability", "log_level", "json"], IsBare name
    decide
  · show ["log_level", "json"].Nodup
    decide

theorem toToml_eq (c : Config) : c.toToml = String.ofList (Section.document c.sections) := by
  unfold toToml sections
  generalize printFlag c.problems.includeUnfailedStuck = unfailed
  generalize printText c.sampleEdit.orphanRetention = retention
  generalize printText c.observability.logLevel = level
  generalize printFlag c.observability.json = json
  apply String.toList_inj.mp
  simp [Section.document, Section.lines, Entry.line]

theorem decode?_toToml (c : Config) : decode? c.toToml = some c := by
  have hparse : parse? c.toToml = some (Section.tables c.sections) := by
    rw [toToml_eq]
    exact Section.parse?_document c.wellFormed_sections (by simp [sections])
  unfold decode?
  rw [hparse]
  rfl

/-- A configuration comes back from its document, or is refused there for what is wrong with it. -/
theorem ofToml_toToml (c : Config) : ofToml c.toToml = c.validate.map fun _ => c := by
  rw [ofToml, decode?_toToml]

theorem effectiveRetention_of_spells {c : SampleEditConfig} {p : OrphanRetention}
    (h : Text.Spells c.orphanRetention (Named.name p)) : c.effectiveRetention = p := by
  rw [SampleEditConfig.effectiveRetention, OrphanRetention.ofText?_eq_some_iff.mpr h,
    Option.getD_some]

/-- A configuration is accepted exactly if its policy is `discard` or `retain` in any letter case,
with any white space around it, and its level a known one in any letter case. Then it comes back
from its document with every field as it was, and so with the policy that its text spells. -/
theorem saved_reads_back (c : Config) :
    (c.validate = .ok () ↔
      (∃ p : OrphanRetention, Text.Spells c.sampleEdit.orphanRetention (Named.name p)) ∧
        Text.lower c.observability.logLevel ∈ logLevels) ∧
      (c.validate = .ok () → ofToml c.toToml = .ok c) ∧
      ∀ p : OrphanRetention, Text.Spells c.sampleEdit.orphanRetention (Named.name p) →
        c.sampleEdit.effectiveRetention = p := by
  refine ⟨validate_eq_ok_iff, fun h => ?_, fun p => effectiveRetention_of_spells⟩
  rw [ofToml_toToml, h]
  rfl

end Config

namespace Specimen

/-- The policy stands on a line of its own, after a carriage return and a vertical tab. -/
def lineBroken : Config where
  problems := { includeUnfailedStuck := false }
  sampleEdit := { orphanRetention := "\r\n\x0b ReTaIn\u2003\n" }
  observability := { logLevel := "WARN", json := true }

theorem lineBroken_reads_back :
    lineBroken.validate = .ok () ∧ Config.ofToml lineBroken.toToml = .ok lineBroken ∧
      Text.Spells lineBroken.sampleEdit.orphanRetention "retain" ∧
      lineBroken.sampleEdit.effectiveRetention = .retain := by
  have haccepted : lineBroken.validate = .ok () := by decide
  have hspells : Text.Spells lineBroken.sampleEdit.orphanRetention "retain" :=
    ⟨"\r\n\x0b ", "ReTaIn", "\u2003\n", by decide, by decide, by decide, by decide⟩
  obtain ⟨-, hreads, hpolicy⟩ := Config.saved_reads_back lineBroken
  exact ⟨haccepted, hreads haccepted, hspells, hpolicy .retain hspells⟩

end Specimen

end Conformance
