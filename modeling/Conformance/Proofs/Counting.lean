import Mathlib.Algebra.BigOperators.Group.List.Basic
import Mathlib.Algebra.Ring.Nat
import Mathlib.Data.List.Perm.Subperm

/-! Counting members of lists: two ways to count pairs, the common members of two lists, and the
members with one of two exclusive properties. -/

namespace Conformance.Counting

variable {α β : Type}

theorem countP_eq_sum (p : α → Bool) (as : List α) :
    as.countP p = (as.map fun a => if p a then 1 else 0).sum := by
  induction as with
  | nil => rfl
  | cons a rest ih => rw [List.countP_cons, List.map_cons, List.sum_cons, ih, Nat.add_comm]

/-- Related pairs counted by their first or by their second component. -/
theorem sum_countP_comm (p : α → β → Bool) (as : List α) (bs : List β) :
    (as.map fun a => bs.countP (p a)).sum = (bs.map fun b => as.countP fun a => p a b).sum := by
  induction as with
  | nil => simp
  | cons a rest ih =>
    simp only [List.countP_cons, List.map_cons, List.sum_cons, List.sum_map_add, ih]
    rw [countP_eq_sum, Nat.add_comm]

/-- Two lists without repetition have the same number of common members, whichever one is
searched. -/
theorem countP_mem_comm [DecidableEq α] {as bs : List α} (ha : as.Nodup) (hb : bs.Nodup) :
    as.countP (fun a => decide (a ∈ bs)) = bs.countP fun b => decide (b ∈ as) := by
  rw [List.countP_eq_length_filter, List.countP_eq_length_filter]
  refine List.Perm.length_eq ((List.perm_ext_iff_of_nodup (ha.filter _) (hb.filter _)).mpr ?_)
  intro x
  simp only [List.mem_filter, decide_eq_true_eq, and_comm]

/-- A property that is one of two exclusive ones holds as often as both of them together. -/
theorem countP_eq_add {as : List α} {p q r : α → Bool}
    (h : ∀ a ∈ as, (r a = true ↔ p a = true ∨ q a = true) ∧ ¬(p a = true ∧ q a = true)) :
    as.countP r = as.countP p + as.countP q := by
  induction as with
  | nil => rfl
  | cons a rest ih =>
    obtain ⟨hor, hnot⟩ := h a List.mem_cons_self
    have ih := ih fun b hb => h b (List.mem_cons_of_mem _ hb)
    rw [List.countP_cons, List.countP_cons, List.countP_cons, ih]
    cases hp : p a with
    | true =>
      have hq : q a = false := eq_false_of_ne_true fun hq => hnot ⟨hp, hq⟩
      have hr : r a = true := hor.mpr (.inl hp)
      simp only [hr, hq, if_true, Bool.false_eq_true, if_false]
      omega
    | false =>
      have hr : r a = q a := Bool.eq_iff_iff.mpr (by simp [hor, hp])
      simp only [hr, Bool.false_eq_true, if_false]
      omega

end Conformance.Counting
