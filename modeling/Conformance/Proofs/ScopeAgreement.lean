import Conformance.Proofs.FingerprintContent
import Conformance.Proofs.RuleFileUpdate
import Conformance.Relevance
import Mathlib.Data.Fintype.EquivFin

/-! Relevance and fingerprints read the same list of content types. The fingerprint takes it as a
set of trimmed names without blank ones; relevance compares the entries as they stand, and takes
only the empty list as universal. The two readings agree on tidy lists. On others, requirements with
equal fingerprints can be relevant to different samples. -/

namespace Conformance

namespace Requirement

/-- No content type of the requirement is blank or has white space around it. -/
def TidyScope (r : Requirement) : Prop := ∀ t ∈ r.contentTypes, Text.trim t = t ∧ t ≠ ""

instance (r : Requirement) : Decidable r.TidyScope :=
  inferInstanceAs (Decidable (∀ t ∈ r.contentTypes, Text.trim t = t ∧ t ≠ ""))

/-- The two requirements are relevant to the same samples. -/
def SameRelevance (a b : Requirement) : Prop :=
  ∀ selected, a.isRelevant selected = b.isRelevant selected

variable {a b r : Requirement} {selected : List String}

theorem isRelevant_iff : r.isRelevant selected = true ↔
    selected = [] ∨ r.contentTypes = [] ∨ ∃ t ∈ r.contentTypes, t ∈ selected := by
  simp [isRelevant, isUniversal, or_assoc]

theorem exists_notMem (texts : List String) : ∃ t, t ∉ texts := by
  have : Infinite String := Infinite.of_injective String.ofList fun x y h => by
    simpa using congrArg String.toList h
  obtain ⟨t, ht⟩ := Infinite.exists_notMem_finset texts.toFinset
  exact ⟨t, fun hmem => ht (List.mem_toFinset.mpr hmem)⟩

/-- A content type of one requirement is one of any other with the same relevance: a sample with
that content type only tells them apart, or else a sample with none of theirs does. -/
theorem SameRelevance.mem (h : a.SameRelevance b) {t : String} (ht : t ∈ a.contentTypes) :
    t ∈ b.contentTypes := by
  have hb : b.isRelevant [t] = true := by
    rw [← h [t]]
    exact isRelevant_iff.mpr (.inr (.inr ⟨t, ht, List.mem_singleton_self t⟩))
  rcases isRelevant_iff.mp hb with hnil | huniversal | ⟨u, hu, hut⟩
  · cases hnil
  · -- A universal requirement is relevant to a sample with a content type foreign to `a`.
    obtain ⟨other, hother⟩ := exists_notMem a.contentTypes
    have ha : a.isRelevant [other] = true := by
      rw [h [other]]
      exact isRelevant_iff.mpr (.inr (.inl huniversal))
    rcases isRelevant_iff.mp ha with hnil | hempty | ⟨u, hu, huo⟩
    · cases hnil
    · rw [hempty] at ht
      cases ht
    · rw [List.mem_singleton.mp huo] at hu
      exact absurd hu hother
  · rwa [← List.mem_singleton.mp hut]

/-- Relevance depends on the content types as a set, entry by entry, and on nothing less. -/
theorem sameRelevance_iff :
    a.SameRelevance b ↔ ∀ t, t ∈ a.contentTypes ↔ t ∈ b.contentTypes := by
  constructor
  · intro h t
    exact ⟨h.mem, SameRelevance.mem fun selected => (h selected).symm⟩
  · intro h selected
    have hempty : a.contentTypes = [] ↔ b.contentTypes = [] := by
      rw [List.eq_nil_iff_forall_not_mem, List.eq_nil_iff_forall_not_mem]
      exact forall_congr' fun t => not_congr (h t)
    rw [Bool.eq_iff_iff, isRelevant_iff, isRelevant_iff, hempty]
    simp only [h]

/-- Of a tidy scope the fingerprint reads the entries as they stand. -/
theorem TidyScope.mem_contentTypes (h : r.TidyScope) {t : String} :
    t ∈ Fingerprint.contentTypes r ↔ t ∈ r.contentTypes := by
  rw [Fingerprint.mem_contentTypes]
  constructor
  · rintro ⟨-, raw, hraw, rfl⟩
    rwa [(h raw hraw).1]
  · intro ht
    exact ⟨(h t ht).2, t, ht, (h t ht).1⟩

/-- Requirements with equal fingerprints are relevant to the same samples exactly if their lists
have the same entries as they stand. Next to a tidy list that means a tidy list. -/
theorem sameRelevance_of_fingerprint (ha : a.Fits) (hb : b.Fits)
    (hscope : Blake3.Separates (Fingerprint.scopeBytes a) (Fingerprint.scopeBytes b))
    (hhash : Blake3.Separates (Fingerprint.requirementBytes a) (Fingerprint.requirementBytes b))
    (h : Fingerprint.requirement a = Fingerprint.requirement b) :
    (a.SameRelevance b ↔ ∀ t, t ∈ a.contentTypes ↔ t ∈ b.contentTypes) ∧
      (a.TidyScope → (a.SameRelevance b ↔ b.TidyScope)) := by
  refine ⟨sameRelevance_iff, fun htidy => ⟨fun hsame t ht => ?_, fun htidy' => ?_⟩⟩
  · exact htidy t ((sameRelevance_iff.mp hsame t).mpr ht)
  · have hset := Fingerprint.contentTypes_of_requirement ha hb hscope hhash h
    refine sameRelevance_iff.mpr fun t => ?_
    rw [← htidy.mem_contentTypes, hset, htidy'.mem_contentTypes]

end Requirement

namespace Specimen

/-- The content type of `kept` again, with a space before it. -/
def padded : Requirement := { kept with contentTypes := [" image"] }

/-- The content type of `kept`, twice. -/
def repeated : Requirement := { kept with contentTypes := ["image", "image"] }

theorem sameRelevance_repeated : kept.Fits ∧ repeated.Fits ∧ kept.TidyScope ∧
    Fingerprint.requirement kept = Fingerprint.requirement repeated ∧
    kept.SameRelevance repeated := by
  have hkept : kept.Fits := by decide
  have hrepeated : repeated.Fits := by decide
  have hscope : Fingerprint.contentTypes kept = Fingerprint.contentTypes repeated := by decide
  have hscopeBytes : Fingerprint.scopeBytes kept = Fingerprint.scopeBytes repeated := by
    rw [Fingerprint.scopeBytes, Fingerprint.scopeBytes, hscope]
  have hbytes := Fingerprint.requirementBytes_congr hscope rfl
  have hequal : Fingerprint.requirement kept = Fingerprint.requirement repeated := by
    rw [Fingerprint.requirement, Fingerprint.requirement, hbytes]
  have htidy : kept.TidyScope := by decide
  have hagree := Requirement.sameRelevance_of_fingerprint hkept hrepeated (fun _ => hscopeBytes)
    (fun _ => hbytes) hequal
  exact ⟨hkept, hrepeated, htidy, hequal, (hagree.2 htidy).mpr (by decide)⟩

/-- White space before a content type leaves the fingerprint as it is, without any collision, but
the requirement is lost to the samples with that content type. -/
theorem padded_loses_relevance : kept.Fits ∧ padded.Fits ∧
    Blake3.Separates (Fingerprint.scopeBytes kept) (Fingerprint.scopeBytes padded) ∧
    Blake3.Separates (Fingerprint.requirementBytes kept) (Fingerprint.requirementBytes padded) ∧
    Fingerprint.requirement kept = Fingerprint.requirement padded ∧
    kept.isRelevant ["image"] = true ∧ padded.isRelevant ["image"] = false := by
  have hscope : Fingerprint.contentTypes kept = Fingerprint.contentTypes padded := by decide
  have hbytes := Fingerprint.requirementBytes_congr hscope rfl
  refine ⟨by decide, by decide, fun _ => ?_, fun _ => hbytes, ?_, by decide, by decide⟩
  · rw [Fingerprint.scopeBytes, Fingerprint.scopeBytes, hscope]
  · rw [Fingerprint.requirement, Fingerprint.requirement, hbytes]

end Specimen

end Conformance
