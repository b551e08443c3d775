import Conformance.Proofs.Text
import Conformance.Timestamp.Text
import Mathlib.Algebra.Group.Nat.Defs
import Mathlib.Data.List.Basic

/-! Reading undoes writing for points in time. Every part is written with a fixed number of digits,
so a reader of that many digits takes it whole; the fraction and a signed year, which are read to
their last digit, have no digit behind them. The strict reader knows no sign; the relaxed one takes
back every point in time. -/

namespace Conformance

/-! ### Digits -/

theorem Text.digitValue?_of_isDigit {c : Char} (h : c.isDigit = true) :
    digitValue? c = some (c.toNat - '0'.toNat) := by
  have hrange : '0' ≤ c ∧ c ≤ '9' := by
    simp only [Char.isDigit, Bool.and_eq_true, decide_eq_true_eq] at h
    exact h
  simp [digitValue?, hrange]

theorem Text.digitsValue_eq {ds : List Char} (h : ∀ c ∈ ds, c.isDigit = true) :
    digitsValue 10 ds = Nat.ofDigitChars 10 ds 0 := by
  rw [digitsValue, Nat.ofDigitChars_eq_foldl]
  refine List.foldl_ext _ _ 0 fun value c hc => ?_
  rw [digitValue?_of_isDigit (h c hc), Option.getD_some, Nat.mul_comm]

namespace Timestamp

section Padded

variable {width n : Nat}

theorem isDigit_of_mem_padded {c : Char} (h : c ∈ padded width n) : c.isDigit = true := by
  rcases List.mem_append.mp h with hzero | hdigit
  · rw [List.eq_of_mem_replicate hzero]
    decide
  · exact Nat.isDigit_of_mem_toDigits (by decide) (by decide) hdigit

theorem length_padded (hwidth : 0 < width) (h : n < 10 ^ width) :
    (padded width n).length = width := by
  have hle : (Nat.toDigits 10 n).length ≤ width :=
    (Nat.length_toDigits_le_iff (by decide) hwidth).mpr h
  rw [padded, List.length_append, List.length_replicate, Nat.sub_add_cancel hle]

theorem ofDigitChars_padded : Nat.ofDigitChars 10 (padded width n) 0 = n := by
  rw [padded, Nat.ofDigitChars_append, Nat.ofDigitChars_replicate_zero, Nat.mul_zero,
    Nat.ofDigitChars_ten_toDigits]

theorem padded_ne_nil : padded width n ≠ [] := by
  simp [padded, Nat.toDigits_ne_nil]

theorem isDigit_of_head?_padded {rest : List Char} {c : Char}
    (h : c ∈ (padded width n ++ rest).head?) : c.isDigit = true := by
  rw [List.head?_append_of_ne_nil _ padded_ne_nil] at h
  exact isDigit_of_mem_padded (List.mem_of_mem_head? h)

end Padded

/-! ### The readers of parts -/

theorem takeWhile_digits {ds rest : List Char} (hdigits : ∀ c ∈ ds, c.isDigit = true)
    (hrest : ∀ c ∈ rest.head?, ¬c.isDigit = true) : (ds ++ rest).takeWhile Char.isDigit = ds := by
  have hend : rest.takeWhile Char.isDigit = [] := by
    cases rest with
    | nil => rfl
    | cons c rest => exact List.takeWhile_cons_of_neg (hrest c rfl)
  rw [List.takeWhile_append_of_pos hdigits, hend, List.append_nil]

/-- A run of digits ends where the reader does, or where no digit follows. -/
theorem number_append {least most : Nat} {ds rest : List Char}
    (hdigits : ∀ c ∈ ds, c.isDigit = true) (hleast : least ≤ ds.length) (hmost : ds.length ≤ most)
    (hrest : ds.length = most ∨ ∀ c ∈ rest.head?, ¬c.isDigit = true) :
    number least most (ds ++ rest) = some (Nat.ofDigitChars 10 ds 0, rest) := by
  have hstop : ∀ c ∈ (rest.take (most - ds.length)).head?, ¬c.isDigit = true := by
    rcases hrest with hfull | hstop
    · simp [hfull]
    · intro c hc
      rw [List.head?_take] at hc
      split at hc
      · cases hc
      · exact hstop c hc
  have hrun : ((ds ++ rest).take most).takeWhile Char.isDigit = ds := by
    rw [List.take_append, List.take_of_length_le hmost, takeWhile_digits hdigits hstop]
  rw [number, hrun]
  simp only [if_neg (Nat.not_lt.mpr hleast), List.drop_left, Text.digitsValue_eq hdigits]

theorem number_padded {least width n : Nat} (hleast : least ≤ width) (hwidth : 0 < width)
    (h : n < 10 ^ width) (rest : List Char) :
    number least width (padded width n ++ rest) = some (n, rest) := by
  have hlength : (padded width n).length = width := length_padded hwidth h
  rw [number_append (fun _ => isDigit_of_mem_padded) (by rwa [hlength]) (Nat.le_of_eq hlength)
    (.inl hlength), ofDigitChars_padded]

/-- The fraction that `width` digits spell, in nanoseconds. -/
theorem fraction_padded {width n : Nat} {rest : List Char} (hwidth : 0 < width) (hnine : width ≤ 9)
    (h : n < 10 ^ width) (hrest : ∀ c ∈ rest.head?, ¬c.isDigit = true) :
    fraction ('.' :: (padded width n ++ rest)) = some (10 ^ (9 - width) * n, rest) := by
  have hlength : (padded width n).length = width := length_padded hwidth h
  have hrun : (padded width n ++ rest).takeWhile Char.isDigit = padded width n :=
    takeWhile_digits (fun _ => isDigit_of_mem_padded) hrest
  have hne : (padded width n).isEmpty = false := by
    rw [List.isEmpty_eq_false_iff, ← List.length_pos_iff, hlength]
    exact hwidth
  have hnine : (padded width n ++ List.replicate 9 '0').take 9 =
      padded width n ++ List.replicate (9 - width) '0' := by
    rw [List.take_append, List.take_of_length_le (hlength.symm ▸ hnine), hlength,
      List.take_replicate, Nat.min_eq_left (Nat.sub_le 9 width)]
  have hdigits : ∀ c ∈ padded width n ++ List.replicate (9 - width) '0', c.isDigit = true := by
    intro c hc
    rcases List.mem_append.mp hc with hc | hc
    · exact isDigit_of_mem_padded hc
    · rw [List.eq_of_mem_replicate hc]
      decide
  simp only [fraction, hrun, hne, hnine, Text.digitsValue_eq hdigits, Nat.ofDigitChars_append,
    ofDigitChars_padded, Nat.ofDigitChars_replicate_zero, List.drop_left]
  rfl

/-- The fewest digits that are exact are read back exactly. -/
theorem fraction_fractionText {n : Nat} {rest : List Char} (h : n < 1000000000)
    (hrest : ∀ c ∈ rest.head?, ¬c.isDigit = true) (hpoint : rest.head? ≠ some '.') :
    fraction (fractionText n ++ rest) = some (n, rest) := by
  rw [fractionText]
  split
  · next hzero =>
    rw [hzero, List.nil_append, fraction]
    rintro tail rfl
    exact hpoint rfl
  · split
    · next hmilli =>
      rw [List.cons_append, fraction_padded (by decide) (by decide) (by omega) hrest]
      congr 2
      omega
    · split
      · next hmicro =>
        rw [List.cons_append, fraction_padded (by decide) (by decide) (by omega) hrest]
        congr 2
        omega
      · rw [List.cons_append, fraction_padded (by decide) (by decide) h hrest]
        congr 2
        omega

theorem ofLocal?_self (t : Timestamp) : ofLocal? t.date.year t.date.month t.date.day
    (t.minute / 60) (t.minute % 60) t.second t.nanosecond 0 = some t := by
  obtain ⟨date, minute, second, nanosecond⟩ := t
  have hclock : (minute / 60 : Nat) ≤ 23 ∧ (minute % 60 : Nat) ≤ 59 := by omega
  have hminute : minute / 60 * 60 + minute % 60 = (minute : Nat) := Nat.div_add_mod' _ _
  have hpast : ¬((minute : Nat) : Int) < 0 := by omega
  have hnext : ¬1440 ≤ ((minute : Nat) : Int) := by omega
  simp [ofLocal?, hclock, hminute, hpast, hnext, second.isLt, nanosecond.isLt, Date.of?_self]

theorem skip_cons (c : Char) (rest : List Char) : skip c (c :: rest) = some rest :=
  if_pos rfl

theorem skipSeparator_cons (rest : List Char) : skipSeparator ('T' :: rest) = some rest := rfl

theorem offset_utc {separator : List Char → Option (List Char)} {rest : List Char} :
    offset separator ('Z' :: rest) = some (0, rest) := rfl

/-- A part that is read hands its value to the reader of the others. -/
theorem bind_of_eq {α β : Type} {o : Option α} {f : α → Option β} {a : α} {b : β}
    (ho : o = some a) (h : f a = some b) : (o >>= f) = some b :=
  Option.bind_eq_some_iff.mpr ⟨a, ho, h⟩

theorem month_lt_hundred (d : Date) : d.month < 100 := by
  have := d.month_range
  omega

theorem day_lt_hundred (d : Date) : d.day < 100 := by
  have hlast : daysInMonth d.year d.month ≤ 31 := by
    rw [daysInMonth]
    split_ifs <;> decide
  have := d.day_range
  omega

/-- Strict reading undoes writing for the years that are written without a sign. -/
theorem ofStrict?_text {t : Timestamp} (h : 0 ≤ t.date.year ∧ t.date.year ≤ 9999) :
    ofStrict? t.text = some t := by
  have hyear : yearText t.date.year = padded 4 t.date.year.toNat := if_pos h
  have hcast : (t.date.year.toNat : Int) = t.date.year := Int.toNat_of_nonneg h.1
  have hfour : ∀ rest, number 4 4 (padded 4 t.date.year.toNat ++ rest) =
      some (t.date.year.toNat, rest) := number_padded (by decide) (by decide) (by omega)
  have htwo : ∀ {n : Nat}, n < 100 → ∀ rest, number 2 2 (padded 2 n ++ rest) = some (n, rest) :=
    fun hn => number_padded (by decide) (by decide) hn
  have hhour : (t.minute : Nat) / 60 < 100 := by omega
  have hminute : (t.minute : Nat) % 60 < 100 := by omega
  have hsecond : (t.second : Nat) < 100 := by omega
  have hfraction : fraction (fractionText t.nanosecond ++ ['Z']) = some (t.nanosecond.val, ['Z']) :=
    fraction_fractionText t.nanosecond.isLt (by rintro _ ⟨⟩; decide) (by decide)
  rw [ofStrict?, text, String.toList_ofList, hyear]
  simp only [List.append_assoc, List.cons_append]
  refine bind_of_eq (hfour _) <| bind_of_eq (skip_cons _ _) <|
    bind_of_eq (htwo (month_lt_hundred _) _) <| bind_of_eq (skip_cons _ _) <|
    bind_of_eq (htwo (day_lt_hundred _) _) <| bind_of_eq (skipSeparator_cons _) <|
    bind_of_eq (htwo hhour _) <| bind_of_eq (skip_cons _ _) <|
    bind_of_eq (htwo hminute _) <| bind_of_eq (skip_cons _ _) <|
    bind_of_eq (htwo hsecond _) <| bind_of_eq hfraction <| bind_of_eq offset_utc ?_
  rw [List.isEmpty_nil, if_pos rfl, hcast]
  exact ofLocal?_self t

/-- The strict reader knows no sign, so it refuses what is written for years that carry one. -/
theorem ofStrict?_text_of_signed {t : Timestamp} (h : ¬(0 ≤ t.date.year ∧ t.date.year ≤ 9999)) :
    ofStrict? t.text = none := by
  have hsign : (if t.date.year < 0 then '-' else '+').isDigit = false := by
    split <;> decide
  have hyear : ∀ rest, number 4 4 ((if t.date.year < 0 then '-' else '+') :: rest) = none := by
    intro rest
    simp [number, hsign]
  rw [ofStrict?, text, String.toList_ofList, yearText, if_neg h]
  simp only [List.cons_append, hyear]
  rfl

/-! ### The relaxed reader -/

section Relaxed

variable {rest : List Char}

theorem trimLeft_padded (width n : Nat) (rest : List Char) :
    Text.trimLeft (padded width n ++ rest) = padded width n ++ rest :=
  Text.trimLeft_of_head fun _ hc => Text.isSpace_of_isDigit (isDigit_of_head?_padded hc)

theorem skipLoose_padded {c : Char} (hc : Text.isSpace c = false) (width n : Nat)
    (rest : List Char) :
    skipLoose c (c :: (padded width n ++ rest)) = some (padded width n ++ rest) := by
  rw [skipLoose, Text.trimLeft_of_head (by simpa using hc), skip_cons, Option.map_some, trimLeft_padded]

/-- A year is read to its last digit, and its sign, if it has one, with it. -/
theorem signedYear_yearText (year : Int) (hrest : ∀ c ∈ rest.head?, ¬c.isDigit = true) :
    signedYear (yearText year ++ rest) = some (year, rest) := by
  rw [yearText]
  split
  · next hplain =>
    have hnumber : number 1 4 (padded 4 year.toNat ++ rest) = some (year.toNat, rest) :=
      number_padded (by decide) (by decide) (by omega) rest
    have hhead : ∀ c cs, padded 4 year.toNat ++ rest = c :: cs → c.isDigit = true := by
      intro c cs h
      exact isDigit_of_head?_padded (by rw [h]; rfl)
    have hcast : (year.toNat : Int) = year := Int.toNat_of_nonneg hplain.1
    rw [signedYear, hnumber, Option.map_some]
    · exact congrArg (fun y => some (y, rest)) hcast
    · exact fun cs h => absurd (hhead '-' cs h) (by decide)
    · exact fun cs h => absurd (hhead '+' cs h) (by decide)
  · next hsigned =>
    have hnumber : number 1 (padded 4 year.natAbs ++ rest).length (padded 4 year.natAbs ++ rest) =
        some (year.natAbs, rest) := by
      rw [number_append (fun _ => isDigit_of_mem_padded) (List.length_pos_iff.mpr padded_ne_nil)
        (by simp) (.inr hrest), ofDigitChars_padded]
    by_cases hneg : year < 0
    · have hcast : -(year.natAbs : Int) = year := by omega
      rw [if_pos hneg, List.cons_append, signedYear, hnumber, Option.map_some]
      exact congrArg (fun y => some (y, rest)) hcast
    · have hcast : (year.natAbs : Int) = year := by omega
      rw [if_neg hneg, List.cons_append, signedYear, hnumber, Option.map_some]
      exact congrArg (fun y => some (y, rest)) hcast

theorem isSpace_of_head?_yearText {year : Int} {c : Char} (h : c ∈ (yearText year ++ rest).head?) :
    Text.isSpace c = false := by
  rw [yearText] at h
  split at h
  · exact Text.isSpace_of_isDigit (isDigit_of_head?_padded h)
  · split at h
    all_goals
      obtain rfl := Option.some.inj h
      decide

/-- Relaxed reading undoes writing for every point in time. -/
theorem ofRelaxed?_text (t : Timestamp) : ofRelaxed? t.text = some t := by
  have htwo : ∀ {n : Nat}, n < 100 → ∀ rest, number 1 2 (padded 2 n ++ rest) = some (n, rest) :=
    fun hn => number_padded (by decide) (by decide) hn
  have hhour : (t.minute : Nat) / 60 < 100 := by omega
  have hminute : (t.minute : Nat) % 60 < 100 := by omega
  have hsecond : (t.second : Nat) < 100 := by omega
  have hfraction : fraction (fractionText t.nanosecond ++ ['Z']) = some (t.nanosecond.val, ['Z']) :=
    fraction_fractionText t.nanosecond.isLt (by rintro _ ⟨⟩; decide) (by decide)
  have hoffset : looseOffset (Text.trimLeft ['Z']) = some (0, []) := by decide
  rw [ofRelaxed?, text, String.toList_ofList]
  simp only [List.append_assoc, List.cons_append]
  rw [Text.trimLeft_of_head fun _ hc => isSpace_of_head?_yearText hc]
  refine bind_of_eq (signedYear_yearText _ (by rintro _ ⟨⟩; decide)) <|
    bind_of_eq (skipLoose_padded (by decide) _ _ _) <|
    bind_of_eq (htwo (month_lt_hundred _) _) <| bind_of_eq (skipLoose_padded (by decide) _ _ _) <|
    bind_of_eq (htwo (day_lt_hundred _) _) <| bind_of_eq (skipSeparator_cons _) ?_
  rw [trimLeft_padded]
  refine bind_of_eq (htwo hhour _) <| bind_of_eq (skipLoose_padded (by decide) _ _ _) <|
    bind_of_eq (htwo hminute _) <| bind_of_eq (skipLoose_padded (by decide) _ _ _) <|
    bind_of_eq (htwo hsecond _) <| bind_of_eq hfraction <| bind_of_eq hoffset ?_
  exact ofLocal?_self t

end Relaxed

end Timestamp

namespace Specimen

/-- The point in time at which the examples of this library record. -/
def noon : Timestamp :=
  ⟨⟨2024, 5, 1, by decide, by decide, by decide⟩, 720, 0, 0⟩

def newYear : Timestamp :=
  ⟨⟨2024, 1, 1, by decide, by decide, by decide⟩, 720, 0, 0⟩

def leapSecond : Timestamp :=
  ⟨⟨0, 12, 31, by decide, by decide, by decide⟩, 1439, 60, 1500⟩

example : Timestamp.ofStrict? leapSecond.text = some leapSecond := by
  decide

def beforeFirstYear : Timestamp :=
  ⟨⟨-1, 1, 1, by decide, by decide, by decide⟩, 0, 60, 500000000⟩

example : beforeFirstYear.text = "-0001-01-01T00:00:60.500Z" ∧
    Timestamp.ofStrict? beforeFirstYear.text = none := by
  decide

end Specimen

end Conformance
