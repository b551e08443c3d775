import Conformance.Aggregation
import Mathlib.Data.List.Basic

/-! The status of a whole, from the statuses of its parts and through two levels. A part without parts
of its own counts as not audited one level up, and counts for nothing where all parts are taken
together. So the two ways agree but for one case: everything there is has passed, and some part is
empty. -/

namespace Conformance.Status

variable {statuses : List Status} {groups : List (List Status)}

theorem rollUp_eq (statuses : List Status) : rollUp statuses =
    if ∀ s ∈ statuses, s = .notAudited then .notAudited
    else if .failed ∈ statuses then .failed
    else if ∀ s ∈ statuses, s = .passed then .passed
    else .partiallyAudited := by
  have hnotAudited : (statuses.length = 0 ∨ statuses.count .notAudited = statuses.length) ↔
      ∀ s ∈ statuses, s = .notAudited := by
    rw [List.count_eq_length]
    constructor
    · rintro (hlength | hall)
      · rw [List.length_eq_zero_iff.mp hlength]
        exact List.forall_mem_nil _
      · exact fun s hs => (hall s hs).symm
    · exact fun hall => .inr fun s hs => (hall s hs).symm
  have hpassed : statuses.count .passed = statuses.length ↔ ∀ s ∈ statuses, s = .passed := by
    rw [List.count_eq_length]
    exact forall₂_congr fun _ _ => eq_comm
  simp only [rollUp, ofCounts, hnotAudited, hpassed, List.count_pos_iff]

theorem rollUp_eq_notAudited_iff :
    rollUp statuses = .notAudited ↔ ∀ s ∈ statuses, s = .notAudited := by
  rw [rollUp_eq]
  split
  · next h => exact iff_of_true rfl h
  · next h => split_ifs <;> simp [h]

theorem rollUp_eq_failed_iff : rollUp statuses = .failed ↔ .failed ∈ statuses := by
  rw [rollUp_eq]
  split
  · next h =>
    have hfailed : .failed ∉ statuses := fun hmem => nomatch h _ hmem
    simp [hfailed]
  · split
    · next hfailed => simp [hfailed]
    · next hfailed => split_ifs <;> simp [hfailed]

theorem rollUp_eq_passed_iff :
    rollUp statuses = .passed ↔ statuses ≠ [] ∧ ∀ s ∈ statuses, s = .passed := by
  constructor
  · intro h
    have hne : statuses ≠ [] := by
      rintro rfl
      cases h
    rw [rollUp_eq] at h
    split_ifs at h with _ _ hpassed
    exact ⟨hne, hpassed⟩
  · rintro ⟨hne, hpassed⟩
    obtain ⟨s, hs⟩ := List.exists_mem_of_ne_nil statuses hne
    obtain rfl := hpassed s hs
    have hnotAudited : ¬∀ s ∈ statuses, s = .notAudited := fun h => nomatch h _ hs
    have hfailed : .failed ∉ statuses := fun h => nomatch hpassed _ h
    rw [rollUp_eq, if_neg hnotAudited, if_neg hfailed, if_pos hpassed]

/-! ### Two levels -/

theorem rollUp_map_eq_notAudited_iff :
    rollUp (groups.map rollUp) = .notAudited ↔ rollUp groups.flatten = .notAudited := by
  simp only [rollUp_eq_notAudited_iff, List.forall_mem_map, List.forall_mem_flatten]

theorem rollUp_map_eq_failed_iff :
    rollUp (groups.map rollUp) = .failed ↔ rollUp groups.flatten = .failed := by
  simp only [rollUp_eq_failed_iff, List.mem_map, List.mem_flatten]

/-- A whole passes through two levels if it passes at once and no group is empty. -/
theorem rollUp_map_eq_passed_iff :
    rollUp (groups.map rollUp) = .passed ↔ rollUp groups.flatten = .passed ∧ [] ∉ groups := by
  simp only [rollUp_eq_passed_iff, List.forall_mem_map, List.forall_mem_flatten]
  constructor
  · rintro ⟨hne, hall⟩
    have hfilled : [] ∉ groups := fun h => (hall [] h).1 rfl
    refine ⟨⟨?_, fun g hg => (hall g hg).2⟩, hfilled⟩
    obtain ⟨g, hg⟩ := List.exists_mem_of_ne_nil groups (by simpa using hne)
    obtain ⟨s, hs⟩ := List.exists_mem_of_ne_nil g (hall g hg).1
    exact List.ne_nil_of_mem (List.mem_flatten.mpr ⟨g, hg, hs⟩)
  · rintro ⟨⟨hne, hall⟩, hfilled⟩
    refine ⟨?_, fun g hg => ⟨fun hnil => hfilled (hnil ▸ hg), hall g hg⟩⟩
    rintro hnil
    rw [List.map_eq_nil_iff.mp hnil] at hne
    exact hne rfl

theorem rollUp_map_of_ne_passed (h : rollUp groups.flatten ≠ .passed) :
    rollUp (groups.map rollUp) = rollUp groups.flatten := by
  cases htwo : rollUp (groups.map rollUp) with
  | notAudited => exact (rollUp_map_eq_notAudited_iff.mp htwo).symm
  | failed => exact (rollUp_map_eq_failed_iff.mp htwo).symm
  | passed => exact absurd (rollUp_map_eq_passed_iff.mp htwo).1 h
  | partiallyAudited =>
    cases hone : rollUp groups.flatten with
    | notAudited => rw [← htwo, rollUp_map_eq_notAudited_iff.mpr hone]
    | failed => rw [← htwo, rollUp_map_eq_failed_iff.mpr hone]
    | passed => exact absurd hone h
    | partiallyAudited => rfl

/-- The two ways to the status of the whole differ only where everything has passed and some group is
empty. -/
theorem rollUp_flatten_ne_iff : rollUp groups.flatten ≠ rollUp (groups.map rollUp) ↔
    [] ∈ groups ∧ groups.flatten ≠ [] ∧ ∀ s ∈ groups.flatten, s = .passed := by
  rw [← rollUp_eq_passed_iff]
  by_cases hpassed : rollUp groups.flatten = .passed
  · have htwo : rollUp (groups.map rollUp) = .passed ↔ [] ∉ groups := by
      rw [rollUp_map_eq_passed_iff, and_iff_right hpassed]
    rw [hpassed, ne_comm, Ne, htwo, not_not, and_iff_left rfl]
  · rw [rollUp_map_of_ne_passed hpassed]
    simp [hpassed]

end Conformance.Status
