import Conformance.Text
import Mathlib.Data.List.DropRight

/-! Trimming cuts a text out of the middle: it never makes a text longer, and a trimmed text has
nothing left to trim. A text is blank only if all its parts are, and a number never is. -/

namespace Conformance.Text

theorem trimRight_append (cs : List Char) :
    trimRight cs ++ (cs.reverse.takeWhile isSpace).reverse = cs := by
  rw [trimRight, ← List.reverse_append, List.takeWhile_append_dropWhile, List.reverse_reverse]

theorem trimLeft_of_append {xs ys : List Char} (h : trimLeft (xs ++ ys) = xs ++ ys) :
    trimLeft xs = xs := by
  cases xs with
  | nil => rfl
  | cons c rest =>
    by_cases hc : isSpace c = true
    · have hlength := congrArg List.length h
      have hle := (List.dropWhile_sublist isSpace (l := rest ++ ys)).length_le
      rw [trimLeft, List.cons_append, List.dropWhile_cons_of_pos hc, List.length_cons] at hlength
      omega
    · rw [trimLeft, List.dropWhile_cons_of_neg hc]

theorem trimLeft_of_head {cs : List Char} (h : ∀ c ∈ cs.head?, isSpace c = false) :
    trimLeft cs = cs := by
  cases cs with
  | nil => rfl
  | cons c cs => exact List.dropWhile_cons_of_neg (by simp [h c rfl])

theorem trim_trim (s : String) : trim (trim s) = trim s := by
  have hleft : trimLeft (trimRight (trimLeft s.toList)) = trimRight (trimLeft s.toList) := by
    apply trimLeft_of_append
    rw [trimRight_append, trimLeft_trimLeft]
  rw [trim, trim, String.toList_ofList, hleft, trimRight, trimRight, List.reverse_reverse,
    List.dropWhile_idempotent]

theorem trimRight_append_of_all (cs : List Char) {back : List Char}
    (h : back.all isSpace = true) : trimRight (cs ++ back) = trimRight cs := by
  rw [trimRight, trimRight, List.reverse_append, List.dropWhile_append_of_pos]
  intro c hc
  exact List.all_eq_true.mp h c (List.mem_reverse.mp hc)

/-- White space put around a text is trimmed with the text's own. -/
theorem trim_append_append {front back : String} (hfront : isBlank front = true)
    (hback : isBlank back = true) (s : String) : trim (front ++ s ++ back) = trim s := by
  have hleft : trimLeft (front.toList ++ (s.toList ++ back.toList)) =
      trimLeft (s.toList ++ back.toList) :=
    List.dropWhile_append_of_pos (List.all_eq_true.mp hfront)
  have happend : trimLeft (s.toList ++ back.toList) =
      if (trimLeft s.toList).isEmpty then trimLeft back.toList
      else trimLeft s.toList ++ back.toList := List.dropWhile_append
  have hright : trimRight (trimLeft (s.toList ++ back.toList)) = trimRight (trimLeft s.toList) := by
    rw [happend]
    split
    · next hnil => rw [List.isEmpty_iff.mp hnil, trimLeft_eq_nil_iff.mpr hback]
    · exact trimRight_append_of_all _ hback
  rw [trim, trim, String.toList_append, String.toList_append, List.append_assoc, hleft, hright]

/-- A text is its trimmed part with white space before and after it. -/
theorem exists_eq_append_trim (s : String) : ∃ front back : String,
    isBlank front = true ∧ isBlank back = true ∧ s = front ++ trim s ++ back := by
  refine ⟨.ofList (s.toList.takeWhile isSpace),
    .ofList ((trimLeft s.toList).reverse.takeWhile isSpace).reverse, ?_, ?_, ?_⟩
  · simp [isBlank, List.all_takeWhile]
  · simp [isBlank, List.all_takeWhile]
  rw [trim, ← String.ofList_append, ← String.ofList_append, List.append_assoc, trimRight_append,
    trimLeft, List.takeWhile_append_dropWhile, String.ofList_toList]

theorem utf8ByteSize_trim_le (s : String) : (trim s).utf8ByteSize ≤ s.utf8ByteSize := by
  obtain ⟨front, back, -, -, h⟩ := exists_eq_append_trim s
  have hsize := congrArg String.utf8ByteSize h
  rw [String.utf8ByteSize_append, String.utf8ByteSize_append] at hsize
  omega

/-- A character takes at most four bytes. -/
theorem utf8ByteSize_ofList_le (cs : List Char) :
    (String.ofList cs).utf8ByteSize ≤ 4 * cs.length := by
  induction cs with
  | nil => simp
  | cons c rest ih =>
    have hc := c.utf8Size_le_four
    rw [← List.singleton_append, String.ofList_append, String.utf8ByteSize_append,
      ← String.singleton_eq_ofList, String.utf8ByteSize_singleton]
    simp only [List.singleton_append, List.length_cons]
    omega

/-! ### Letter case -/

/-- No letter is white space, in either case. -/
theorem isSpace_toLower (c : Char) : isSpace c.toLower = isSpace c := by
  have hletters : ∀ n < 91, isSpace (Char.ofNat n).toLower = isSpace (Char.ofNat n) := by decide
  by_cases hupper : c.toNat < 91
  · rw [← Char.ofNat_toNat c]
    exact hletters _ hupper
  · have hnot : ¬(c.val ≥ 'A'.val ∧ c.val ≤ 'Z'.val) := fun h =>
      hupper (Nat.lt_succ_of_le (UInt32.le_iff_toNat_le.mp h.2))
    have hsame : c.toLower = c := dif_neg hnot
    rw [hsame]

theorem trim_lower (s : String) : trim (lower s) = lower (trim s) := by
  have hspace : isSpace ∘ Char.toLower = isSpace := funext isSpace_toLower
  simp [trim, lower, trimLeft, trimRight, List.dropWhile_map, ← List.map_reverse, hspace]

/-- The text is `word` in some letter case, with any white space around it. -/
def Spells (text word : String) : Prop :=
  ∃ front middle back : String, isBlank front = true ∧ isBlank back = true ∧
    lower middle = word ∧ text = front ++ middle ++ back

theorem lower_trim_eq_iff {text word : String} (hword : trim word = word) :
    lower (trim text) = word ↔ Spells text word := by
  constructor
  · intro h
    obtain ⟨front, back, hfront, hback, htext⟩ := exists_eq_append_trim text
    exact ⟨front, trim text, back, hfront, hback, h, htext⟩
  · rintro ⟨front, middle, back, hfront, hback, hmiddle, rfl⟩
    rw [trim_append_append hfront hback, ← trim_lower, hmiddle, hword]

/-! ### Blank texts and numbers -/

theorem isBlank_append (s t : String) : isBlank (s ++ t) = (isBlank s && isBlank t) := by
  rw [isBlank, String.toList_append, List.all_append]
  rfl

theorem isSpace_of_isDigit {c : Char} (h : c.isDigit = true) : isSpace c = false := by
  rw [Char.isDigit_iff_toNat] at h
  grind [isSpace]

/-- Numbers serve as ids of entries that have none, so they must not be blank. -/
theorem isBlank_toString (n : Nat) : isBlank (toString n) = false := by
  have hdigit : ∀ c ∈ Nat.toDigits 10 n, isSpace c = false := fun c hc =>
    isSpace_of_isDigit (Nat.isDigit_of_mem_toDigits (by decide) (by decide) hc)
  obtain ⟨c, hc⟩ := List.exists_mem_of_ne_nil _ (Nat.toDigits_ne_nil (n := n) (b := 10))
  rw [isBlank, Nat.toString_eq_repr, Nat.toList_repr, List.all_eq_false]
  exact ⟨c, hc, by rw [hdigit c hc]; decide⟩

/-- The digits of a number give it back. -/
theorem toString_injective : Function.Injective (toString : Nat → String) := by
  intro m n h
  rw [Nat.toString_eq_repr, Nat.toString_eq_repr] at h
  have hdigits := congrArg String.toList h
  rw [Nat.toList_repr, Nat.toList_repr] at hdigits
  rw [← Nat.ofDigitChars_ten_toDigits (n := m), hdigits, Nat.ofDigitChars_ten_toDigits]

end Conformance.Text
