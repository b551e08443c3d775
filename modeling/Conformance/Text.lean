/-! White space, trimming and letter case of text. Trimming and blankness use the Unicode property
`White_Space`; letter case is folded in ASCII only, so that identifiers written in other scripts
never change. -/

namespace Conformance.Text

/-- A character with the Unicode property `White_Space`. -/
def isSpace (c : Char) : Bool :=
  let n := c.toNat
  (0x9 ≤ n && n ≤ 0xD) || n == 0x20 || n == 0x85 || n == 0xA0 || n == 0x1680 ||
    (0x2000 ≤ n && n ≤ 0x200A) || n == 0x2028 || n == 0x2029 || n == 0x202F || n == 0x205F ||
    n == 0x3000

/-- The characters without the white space at their front. -/
def trimLeft (cs : List Char) : List Char := cs.dropWhile isSpace

/-- The characters without the white space at their end. -/
def trimRight (cs : List Char) : List Char := (cs.reverse.dropWhile isSpace).reverse

/-- The text without the white space at both ends. -/
def trim (s : String) : String := String.ofList (trimRight (trimLeft s.toList))

/-- A text without any character but white space. -/
def isBlank (s : String) : Bool := s.toList.all isSpace

/-- The text with the letters `a` to `z` in upper case. -/
def upper (s : String) : String := String.ofList (s.toList.map Char.toUpper)

/-- The text with the letters `A` to `Z` in lower case. -/
def lower (s : String) : String := String.ofList (s.toList.map Char.toLower)

/-- The texts in one line, separated by commas. -/
def commaList (parts : List String) : String := String.intercalate ", " parts

theorem trimLeft_eq_nil_iff {cs : List Char} : trimLeft cs = [] ↔ cs.all isSpace = true := by
  induction cs with
  | nil => simp [trimLeft]
  | cons c cs ih =>
    by_cases h : isSpace c = true
    · rw [trimLeft, List.dropWhile_cons_of_pos h, List.all_cons, h, Bool.true_and]
      exact ih
    · simp [trimLeft, h]

theorem trimRight_eq_nil_iff {cs : List Char} : trimRight cs = [] ↔ cs.all isSpace = true := by
  rw [trimRight, List.reverse_eq_nil_iff, ← List.all_reverse]
  exact trimLeft_eq_nil_iff

/-- Dropping white space from the front leaves none at the front. -/
theorem trimLeft_trimLeft (cs : List Char) : trimLeft (trimLeft cs) = trimLeft cs := by
  induction cs with
  | nil => rfl
  | cons c cs ih =>
    by_cases h : isSpace c = true
    · simpa [trimLeft, h] using ih
    · simp [trimLeft, h]

/-- A text is blank exactly if nothing is left of it after trimming. -/
theorem trim_eq_empty_iff {s : String} : trim s = "" ↔ isBlank s = true := by
  have hnil : trim s = "" ↔ trimRight (trimLeft s.toList) = [] := by
    unfold trim
    constructor
    · intro h
      have := congrArg String.toList h
      simpa using this
    · intro h
      rw [h, String.ofList_nil]
  rw [hnil, trimRight_eq_nil_iff, isBlank]
  constructor
  · intro h
    have h2 := trimLeft_eq_nil_iff.mpr h
    rw [trimLeft_trimLeft] at h2
    exact trimLeft_eq_nil_iff.mp h2
  · intro h
    rw [trimLeft_eq_nil_iff.mpr h]
    rfl

end Conformance.Text
