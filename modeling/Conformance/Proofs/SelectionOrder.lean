import Conformance.Proofs.EditCommit
import Conformance.Proofs.ScopeAgreement

/-! The order of selections. A wider selection makes more requirements relevant, where the empty
selection, which stands for no choice, is wider than any other. No other order does: a selection is
within another exactly if every requirement relevant under it is relevant under the other. Relevant
keys, and what an edit adds and removes, follow the order, and selections put together make relevant
what either of them does. -/

namespace Conformance

open scoped List

/-- The second selection is the wider one: it is empty, or the first is not and its content types
are all in the second. -/
def SelectsWithin (narrow wide : List String) : Prop := wide = [] ∨ narrow ≠ [] ∧ narrow ⊆ wide

instance (narrow wide : List String) : Decidable (SelectsWithin narrow wide) :=
  inferInstanceAs (Decidable (wide = [] ∨ narrow ≠ [] ∧ narrow ⊆ wide))

namespace Requirement

variable {r : Requirement} {narrow wide : List String}

theorem isRelevant_of_selectsWithin (h : SelectsWithin narrow wide)
    (hr : r.isRelevant narrow = true) : r.isRelevant wide = true := by
  rw [isRelevant_iff] at hr ⊢
  rcases h with rfl | ⟨hnarrow, hsubset⟩
  · exact .inl rfl
  · rcases hr with hempty | huniversal | ⟨t, ht, hselected⟩
    · exact absurd hempty hnarrow
    · exact .inr (.inl huniversal)
    · exact .inr (.inr ⟨t, ht, hsubset hselected⟩)

/-- Of all orders on selections this is the one that relevance follows. -/
theorem selectsWithin_iff : SelectsWithin narrow wide ↔
    ∀ r : Requirement, r.isRelevant narrow = true → r.isRelevant wide = true := by
  refine ⟨fun h r => isRelevant_of_selectsWithin h, fun h => ?_⟩
  by_cases hwide : wide = []
  · exact .inl hwide
  -- A requirement about one content type is relevant only where that type is selected.
  have hmem : ∀ t, ({ key := "", contentTypes := [t] } : Requirement).isRelevant narrow = true →
      t ∈ wide := by
    intro t ht
    simpa [isRelevant_iff, hwide] using h _ ht
  refine .inr ⟨fun hnarrow => ?_, fun t ht => hmem t ?_⟩
  · obtain ⟨t, ht⟩ := exists_notMem wide
    exact ht (hmem t (isRelevant_iff.mpr (.inl hnarrow)))
  · exact isRelevant_iff.mpr (.inr (.inr ⟨t, List.mem_singleton_self t, ht⟩))

/-- The empty selection is not the least one, although its entries are all in any other. -/
example : SelectsWithin ["image"] ["image", "text"] ∧ SelectsWithin ["image"] [] ∧
    ¬SelectsWithin [] ["image"] := by
  decide

theorem isRelevant_append {left right : List String} (hleft : left ≠ []) (hright : right ≠ []) :
    r.isRelevant (left ++ right) = (r.isRelevant left || r.isRelevant right) := by
  rw [Bool.eq_iff_iff, Bool.or_eq_true]
  simp only [isRelevant_iff, List.append_eq_nil_iff, hleft, hright, List.mem_append, false_and,
    false_or]
  constructor
  · rintro (huniversal | ⟨t, ht, hselected | hselected⟩)
    · exact .inl (.inl huniversal)
    · exact .inl (.inr ⟨t, ht, hselected⟩)
    · exact .inr (.inr ⟨t, ht, hselected⟩)
  · rintro ((huniversal | ⟨t, ht, hselected⟩) | (huniversal | ⟨t, ht, hselected⟩))
    · exact .inl huniversal
    · exact .inr ⟨t, ht, .inl hselected⟩
    · exact .inl huniversal
    · exact .inr ⟨t, ht, .inr hselected⟩

end Requirement

namespace RuleFile

variable {f : RuleFile} {s t u : Sample}

theorem relevant_sublist (h : SelectsWithin s.selectedContentTypes t.selectedContentTypes) :
    f.relevant s <+ f.relevant t :=
  List.monotone_filter_right _ fun _ hr => Requirement.isRelevant_of_selectsWithin h hr

theorem relevantKeys_subset (h : SelectsWithin s.selectedContentTypes t.selectedContentTypes) :
    f.relevantKeys s ⊆ f.relevantKeys t :=
  ((relevant_sublist h).map _).subset

end RuleFile

namespace SampleEdit

variable {f : RuleFile} {s : Sample} {e : SampleEdit}

theorem impact_of_widening
    (h : SelectsWithin s.selectedContentTypes (e.applyTo s).selectedContentTypes) :
    (e.impact f s).removed = [] ∧ (e.impact f s).dataWillBeLost = false := by
  have hremoved : (e.impact f s).removed = [] :=
    orderedDifference_eq_nil_iff.mpr (RuleFile.relevantKeys_subset h)
  refine ⟨hremoved, ?_⟩
  show (!((e.impact f s).removed.filter s.hasRecordedResult).isEmpty) = false
  rw [hremoved]
  rfl

theorem impact_of_narrowing
    (h : SelectsWithin (e.applyTo s).selectedContentTypes s.selectedContentTypes) :
    (e.impact f s).added = [] :=
  orderedDifference_eq_nil_iff.mpr (RuleFile.relevantKeys_subset h)

/-- Under any policy, a wider selection keeps all results. -/
theorem commit_of_widening
    (h : SelectsWithin s.selectedContentTypes (e.applyTo s).selectedContentTypes)
    (retention : OrphanRetention) : e.commit f s (e.impact f s) retention = .ok (e.applyTo s) := by
  rw [commit_eq rfl]
  cases retention with
  | retain => rfl
  | discard =>
    rw [committedResults, (impact_of_widening h).1]
    rfl

end SampleEdit

/-- A wider selection keeps all relevant requirements in their order, so an edit to a wider one
removes none and loses no data, and an edit to a narrower one adds none. Two selections put together
make relevant what either of them does, unless one of them is empty. -/
theorem RuleFile.relevance_monotone (f : RuleFile) :
    (∀ s t : Sample, SelectsWithin s.selectedContentTypes t.selectedContentTypes →
      f.relevant s <+ f.relevant t) ∧
    (∀ (s : Sample) (e : SampleEdit),
      SelectsWithin s.selectedContentTypes (e.applyTo s).selectedContentTypes →
        (e.impact f s).removed = [] ∧ (e.impact f s).dataWillBeLost = false) ∧
    (∀ (s : Sample) (e : SampleEdit),
      SelectsWithin (e.applyTo s).selectedContentTypes s.selectedContentTypes →
        (e.impact f s).added = []) ∧
    ∀ s t both : Sample, s.selectedContentTypes ≠ [] → t.selectedContentTypes ≠ [] →
      both.selectedContentTypes = s.selectedContentTypes ++ t.selectedContentTypes →
        f.relevant both = f.requirements.filter fun r =>
          r.isRelevant s.selectedContentTypes || r.isRelevant t.selectedContentTypes := by
  refine ⟨fun s t => relevant_sublist, fun s e => SampleEdit.impact_of_widening,
    fun s e => SampleEdit.impact_of_narrowing, fun s t both hs ht hboth => ?_⟩
  rw [relevant, hboth]
  exact List.filter_congr fun r _ => Requirement.isRelevant_append hs ht

end Conformance
