import Conformance.Toml.Printer

/-! Quoted text reads back. Whatever the way of quoting, the reader finds the characters that were
written and stops behind the closing quotes. The two ways with double quotes share their escapes;
the two ways over several lines share how up to two quotes may stand before the closing ones. -/

namespace Conformance.Toml

open Quoted

/-! ### Escapes -/

/-- Control characters have small numbers, so two hexadecimal digits are enough for them. -/
theorem hexChar?_of_isControl {c : Char} (h : isControl c = true) :
    hexChar? ['0', '0', upperHexDigit (c.toNat / 16), upperHexDigit (c.toNat % 16)] = some c := by
  have hlow : ∀ n < 0x20, hexChar? ['0', '0', upperHexDigit (n / 16), upperHexDigit (n % 16)] =
      some (Char.ofNat n) := by decide
  have hcases : c.toNat < 0x20 ∨ c.toNat = 0x7F := by
    simp [isControl] at h
    omega
  rcases hcases with hn | hn
  · rw [hlow _ hn, Char.ofNat_toNat]
  · rw [← Char.ofNat_toNat c, hn]
    decide

theorem escapedControl_cases (c : Char) :
    (∃ e, letterEscape? e = some c ∧ escapedControl c = ['\\', e]) ∨
    (isControl c = true ∧ escapedControl c =
      ['\\', 'u', '0', '0', upperHexDigit (c.toNat / 16), upperHexDigit (c.toNat % 16)]) ∨
    (c ≠ '\\' ∧ isControl c = false ∧ escapedControl c = [c]) := by
  unfold escapedControl
  split
  · next h => exact .inl ⟨'b', congrArg some h.symm, rfl⟩
  split
  · next h => exact .inl ⟨'f', congrArg some h.symm, rfl⟩
  split
  · next h => exact .inl ⟨'r', congrArg some h.symm, rfl⟩
  split
  · next h => exact .inl ⟨'\\', congrArg some h.symm, rfl⟩
  next hslash =>
  split
  · next hcontrol => exact .inr (.inl ⟨hcontrol, rfl⟩)
  · next hcontrol => exact .inr (.inr ⟨hslash, eq_false_of_ne_true hcontrol, rfl⟩)

theorem escapedBasic_cases (c : Char) :
    (∃ e, letterEscape? e = some c ∧ escapedBasic c = ['\\', e]) ∨
    (c ≠ '"' ∧ c ≠ '\n' ∧ escapedBasic c = escapedControl c) := by
  unfold escapedBasic
  split
  · next h => exact .inl ⟨'"', congrArg some h.symm, rfl⟩
  next hquote =>
  split
  · next h => exact .inl ⟨'n', congrArg some h.symm, rfl⟩
  next hline =>
  split
  · next h => exact .inl ⟨'t', congrArg some h.symm, rfl⟩
  · exact .inr ⟨hquote, hline, rfl⟩

/-- A reader of text between double quotes takes an escape for the character that it stands for and
a plain character for itself. -/
structure Unescapes (read : List Char → Option (List Char × List Char)) : Prop where
  letter : ∀ {e c} rest, letterEscape? e = some c → read ('\\' :: e :: rest) = push c (read rest)
  number : ∀ {a b c d x} rest, hexChar? [a, b, c, d] = some x →
    read ('\\' :: 'u' :: a :: b :: c :: d :: rest) = push x (read rest)
  plain : ∀ {c} rest, c ≠ '"' → c ≠ '\\' → isPlain c = true → read (c :: rest) = push c (read rest)

section Unescapes

variable {read : List Char → Option (List Char × List Char)} {c : Char}

theorem Unescapes.escapedControl (h : Unescapes read) (hquote : c ≠ '"') (hline : c ≠ '\n')
    (rest : List Char) : read (escapedControl c ++ rest) = push c (read rest) := by
  rcases escapedControl_cases c with ⟨e, hletter, hc⟩ | ⟨hcontrol, hc⟩ | ⟨hslash, hcontrol, hc⟩
  · rw [hc]
    exact h.letter rest hletter
  · rw [hc]
    exact h.number rest (hexChar?_of_isControl hcontrol)
  · rw [hc]
    exact h.plain rest hquote hslash (by simp [isPlain, hcontrol, hline])

theorem Unescapes.escapedBasic (h : Unescapes read) (c : Char) (rest : List Char) :
    read (escapedBasic c ++ rest) = push c (read rest) := by
  rcases escapedBasic_cases c with ⟨e, hletter, hc⟩ | ⟨hquote, hline, hc⟩
  · rw [hc]
    exact h.letter rest hletter
  · rw [hc]
    exact h.escapedControl hquote hline rest

end Unescapes

theorem unescapes_basic : Unescapes basic where
  letter rest h := by
    rw [basic.eq_5, h]
    · rfl
    · rintro a b c d rest' rfl -
      cases h
    · rintro a b c d e f g h' rest' rfl -
      cases h
  number rest h := by
    rw [basic, h]
    rfl
  plain rest hquote hslash hplain := by
    rw [basic.eq_6] <;> simp_all

theorem unescapes_multilineBasic : Unescapes (multilineBasic false) where
  letter := by
    intro e c rest h
    have hnot : (skipNewline? (skipBlanks (e :: rest))).isSome = false := by
      unfold letterEscape? at h
      split at h
      all_goals first | rfl | cases h
    rw [multilineBasic.eq_9, h, hnot]
    · rfl
    · rintro a b c d rest' rfl -
      cases h
    · rintro a b c d e f g h' rest' rfl -
      cases h
  number rest h := by
    rw [multilineBasic, h]
    rfl
  plain := by
    intro c rest hquote hslash hplain
    have hreturn : c ≠ '\r' := by
      rintro rfl
      cases hplain
    have hline : c ≠ '\n' := by
      rintro rfl
      cases hplain
    rw [multilineBasic.eq_10] <;> simp_all

/-! ### On one line -/

theorem basic_escaped (cs rest : List Char) :
    basic (cs.flatMap escapedBasic ++ '"' :: rest) = some (cs, rest) := by
  induction cs with
  | nil => rw [List.flatMap_nil, List.nil_append, basic]
  | cons c cs ih =>
    rw [List.flatMap_cons, List.append_assoc, unescapes_basic.escapedBasic, ih]
    rfl

theorem literal_append {cs : List Char} (h : ∀ c ∈ cs, isPlain c = true ∧ c ≠ '\x27')
    (rest : List Char) : literal (cs ++ '\x27' :: rest) = some (cs, rest) := by
  induction cs with
  | nil => rw [List.nil_append, literal]
  | cons c cs ih =>
    obtain ⟨⟨hplain, hquote⟩, hcs⟩ := List.forall_mem_cons.mp h
    rw [List.cons_append, literal, if_pos hplain, ih hcs]
    · rfl
    · exact hquote

/-! ### Over several lines -/

/-- A reader of text up to three quotes. Of four or five in a row the first belong to the text. -/
structure StopsAtThree (q : Char) (read : List Char → Option (List Char × List Char)) : Prop where
  three : ∀ {rest}, rest.head? ≠ some q → read (q :: q :: q :: rest) = some ([], rest)
  four : ∀ {rest}, rest.head? ≠ some q → read (q :: q :: q :: q :: rest) = some ([q], rest)
  five : ∀ {rest}, read (q :: q :: q :: q :: q :: rest) = some ([q, q], rest)
  keeps : ∀ {cs}, ¬[q, q] <+: cs → read (q :: cs) = push q (read cs)

/-- A quote is read as part of the text if at most one more stands right after it in the text. -/
theorem StopsAtThree.quote {q : Char} {read : List Char → Option (List Char × List Char)}
    (h : StopsAtThree q read) {written cs rest : List Char} (hrest : rest.head? ≠ some q)
    (hrun : ¬[q, q] <+: written)
    (hread : read (written ++ q :: q :: q :: rest) = some (cs, rest)) :
    read (q :: (written ++ q :: q :: q :: rest)) = some (q :: cs, rest) := by
  match written with
  | [] =>
    rw [List.nil_append, h.three hrest] at hread
    obtain ⟨rfl, -⟩ := Prod.mk.inj (Option.some.inj hread)
    exact h.four hrest
  | [c] =>
    by_cases hc : c = q
    · subst hc
      rw [List.singleton_append, h.four hrest] at hread
      obtain ⟨rfl, -⟩ := Prod.mk.inj (Option.some.inj hread)
      exact h.five
    · rw [h.keeps (by simp [List.cons_prefix_cons, Ne.symm hc]), hread]
      rfl
  | c :: d :: more =>
    have hnot : ¬[q, q] <+: c :: d :: more ++ q :: q :: q :: rest := by
      simpa [List.cons_prefix_cons] using hrun
    rw [h.keeps hnot, hread]
    rfl

theorem stopsAtThree_multilineBasic : StopsAtThree '"' (multilineBasic false) where
  three h := by
    rw [multilineBasic.eq_4] <;> rintro rest' rfl <;> simp at h
  four h := by
    rw [multilineBasic.eq_3]
    rintro rest' rfl
    simp at h
  five := multilineBasic.eq_2 _ _
  keeps := by
    intro cs h
    have hshort : ∀ rest, cs ≠ '"' :: '"' :: rest := by
      rintro rest rfl
      exact h ⟨rest, rfl⟩
    rw [multilineBasic.eq_10] <;> simp_all [isPlain, isControl]

theorem stopsAtThree_multilineLiteral : StopsAtThree '\x27' multilineLiteral where
  three h := by
    rw [multilineLiteral.eq_4] <;> rintro rest' rfl <;> simp at h
  four h := by
    rw [multilineLiteral.eq_3]
    rintro rest' rfl
    simp at h
  five := multilineLiteral.eq_2 _
  keeps := by
    intro cs h
    have hshort : ∀ rest, cs ≠ '\x27' :: '\x27' :: rest := by
      rintro rest rfl
      exact h ⟨rest, rfl⟩
    rw [multilineLiteral.eq_7] <;> simp_all [isPlain, isControl]

/-- What is written for a character begins with a backslash or is the character itself. -/
theorem eq_of_mem_head?_escapedControl {c d : Char} {rest : List Char}
    (h : d ∈ (escapedControl c ++ rest).head?) : d = '\\' ∨ d = c ∧ isControl c = false := by
  rcases escapedControl_cases c with ⟨e, -, hc⟩ | ⟨-, hc⟩ | ⟨-, hcontrol, hc⟩
  · rw [hc] at h
    exact .inl (Option.some.inj h).symm
  · rw [hc] at h
    exact .inl (Option.some.inj h).symm
  · rw [hc] at h
    exact .inr ⟨(Option.some.inj h).symm, hcontrol⟩

theorem eq_of_mem_head?_escapedMultiline {c d : Char} {run : Nat} {cs rest : List Char}
    (h : d ∈ (escapedMultiline run (c :: cs) ++ rest).head?) :
    d = '\\' ∨ d = c ∧ isControl c = false := by
  rw [escapedMultiline] at h
  split at h
  · next hquote =>
    subst hquote
    split at h
    · exact .inl (Option.some.inj h).symm
    · exact .inr ⟨(Option.some.inj h).symm, rfl⟩
  split at h
  · next hline => exact .inr ⟨(Option.some.inj h).symm.trans hline.symm, hline ▸ rfl⟩
  split at h
  · exact .inl (Option.some.inj h).symm
  · rw [List.append_assoc] at h
    exact eq_of_mem_head?_escapedControl h

/-- After one quote at most one more is written as it stands, and after two none. -/
theorem not_prefix_escapedMultiline {run : Nat} (hpos : 0 < run) (hrun : run ≤ 2)
    (cs : List Char) : ¬['"', '"'] <+: escapedMultiline run cs := by
  have hquote : ∀ {run c cs more}, '"' :: more = escapedMultiline run (c :: cs) → c = '"' := by
    intro run c cs more h
    have hmem : '"' ∈ (escapedMultiline run (c :: cs) ++ []).head? := by
      rw [← h]
      rfl
    rcases eq_of_mem_head?_escapedMultiline hmem with heq | ⟨heq, -⟩
    · cases heq
    · exact heq.symm
  rintro ⟨more, hmore⟩
  match cs with
  | [] => simp [escapedMultiline] at hmore
  | c :: cs =>
    rw [escapedMultiline, if_pos (hquote hmore)] at hmore
    split at hmore
    · simp at hmore
    obtain rfl : run = 1 := by omega
    match cs with
    | [] => simp [escapedMultiline] at hmore
    | d :: cs =>
      have hmore' := (List.cons.inj hmore).2
      rw [escapedMultiline, if_pos (hquote hmore')] at hmore'
      simp at hmore'

/-- Three quotes in a row are never written as they stand, so the text ends where it should. -/
theorem multilineBasic_escaped {run : Nat} (hrun : run ≤ 2) (cs : List Char) {rest : List Char}
    (hrest : rest.head? ≠ some '"') :
    multilineBasic false (escapedMultiline run cs ++ '"' :: '"' :: '"' :: rest) =
      some (cs, rest) := by
  induction cs generalizing run with
  | nil => exact stopsAtThree_multilineBasic.three hrest
  | cons c cs ih =>
    rw [escapedMultiline]
    split
    · next hquote =>
      subst hquote
      split
      · rw [List.cons_append, List.cons_append, unescapes_multilineBasic.letter _ rfl,
          ih (Nat.zero_le 2)]
        rfl
      · next htwo =>
        have hmore : run + 1 ≤ 2 := by omega
        exact stopsAtThree_multilineBasic.quote hrest
          (not_prefix_escapedMultiline (Nat.succ_pos run) hmore cs) (ih hmore)
    next hquote =>
    split
    · next hline =>
      rw [List.cons_append, multilineBasic, ih (Nat.zero_le 2), hline]
      rfl
    next hline =>
    split
    · next htab =>
      rw [List.cons_append, List.cons_append, unescapes_multilineBasic.letter _ rfl,
        ih (Nat.zero_le 2), htab]
      rfl
    · rw [List.append_assoc, unescapes_multilineBasic.escapedControl hquote hline,
        ih (Nat.zero_le 2)]
      rfl

theorem hasRun_of_le {q : Char} {count run : Nat} (h : count ≤ run) (cs : List Char) :
    Quoting.hasRun q count run cs = true := by
  cases cs <;> simp [Quoting.hasRun, h]

/-- A text without control characters and without three single quotes in a row. -/
theorem multilineLiteral_append {run : Nat} {cs rest : List Char}
    (hplain : ∀ c ∈ cs, isControl c = false) (hrun : Quoting.hasRun '\x27' 3 run cs = false)
    (hrest : rest.head? ≠ some '\x27') :
    multilineLiteral (cs ++ '\x27' :: '\x27' :: '\x27' :: rest) = some (cs, rest) := by
  induction cs generalizing run with
  | nil => exact stopsAtThree_multilineLiteral.three hrest
  | cons c cs ih =>
    obtain ⟨hcontrol, hcs⟩ := List.forall_mem_cons.mp hplain
    rw [Quoting.hasRun, Bool.or_eq_false_iff] at hrun
    have hread := ih hcs hrun.2
    by_cases hquote : c = '\x27'
    · subst hquote
      refine stopsAtThree_multilineLiteral.quote hrest ?_ hread
      rintro ⟨more, rfl⟩
      simp [Quoting.hasRun, hasRun_of_le] at hrun
    by_cases hline : c = '\n'
    · subst hline
      rw [List.cons_append, multilineLiteral, hread]
      rfl
    have hreturn : c ≠ '\r' := by
      rintro rfl
      cases hcontrol
    rw [List.cons_append, multilineLiteral.eq_7, hread] <;> simp_all [isPlain, push]

/-! ### Every way of quoting -/

namespace Quoting

/-- The texts that a way of quoting can write. The two ways with escapes write every text. -/
def Admits : Quoting → List Char → Prop
  | .basic, _ => True
  | .literal, cs => ∀ c ∈ cs, isPlain c = true ∧ c ≠ '\x27'
  | .multilineBasic, _ => True
  | .multilineLiteral, cs => (∀ c ∈ cs, isControl c = false) ∧ hasRun '\x27' 3 0 cs = false

theorem admits_choose (cs : List Char) : (choose cs).Admits cs := by
  unfold choose
  dsimp only
  split
  · exact True.intro
  split
  · next h =>
    simp only [Bool.and_eq_true, Bool.not_eq_true', List.any_eq_false, Bool.not_eq_true] at h
    obtain ⟨⟨hcontrol, hline⟩, hquote⟩ := h
    intro c hc
    have hne : c ≠ '\n' := fun heq => by simp [heq ▸ hc] at hline
    exact ⟨by simp [isPlain, hcontrol c hc, hne], fun heq => by simp [heq ▸ hc] at hquote⟩
  split
  · exact True.intro
  split
  · next h =>
    simp only [Bool.and_eq_true, Bool.not_eq_true', List.any_eq_false, Bool.not_eq_true] at h
    exact h
  split <;> exact True.intro

theorem exists_quote_write (q : Quoting) (cs : List Char) :
    ∃ c more, q.write cs = c :: more ∧ (c = '"' ∨ c = '\x27') := by
  cases q
  · exact ⟨_, _, rfl, .inl rfl⟩
  · exact ⟨_, _, rfl, .inr rfl⟩
  · exact ⟨_, _, rfl, .inl rfl⟩
  · exact ⟨_, _, rfl, .inr rfl⟩

end Quoting

/-- The line break that opens a text over several lines is dropped, and nothing else. -/
theorem dropNewline_opening (cs : List Char) {written : List Char}
    (h : '\n' ∉ cs → ∀ c ∈ written.head?, isControl c = false ∧ c ≠ '\n') :
    dropNewline ((if cs.contains '\n' then ['\n'] else []) ++ written) = written := by
  by_cases hline : '\n' ∈ cs
  · rw [if_pos (List.contains_iff_mem.mpr hline)]
    rfl
  rw [if_neg (by simpa using hline), List.nil_append]
  cases written with
  | nil => rfl
  | cons c written =>
    obtain ⟨hcontrol, hne⟩ := h hline c rfl
    have hreturn : c ≠ '\r' := by
      rintro rfl
      cases hcontrol
    unfold dropNewline skipNewline?
    split <;> simp_all

theorem read_eq_readLine {c : Char} {cs : List Char} (h : ¬[c, c] <+: cs) :
    read (c :: cs) = read.readLine (c :: cs) := by
  rw [read.eq_3]
  all_goals
    rintro rest hcs
    obtain ⟨rfl, rfl⟩ := List.cons.inj hcs
    exact h ⟨rest, rfl⟩

/-- On one line the closing quote is not the second of three. -/
theorem not_prefix_closing {q : Char} {written rest : List Char} (hwritten : written.head? ≠ some q)
    (hrest : rest.head? ≠ some q) : ¬[q, q] <+: written ++ q :: rest := by
  rintro ⟨more, hmore⟩
  cases written with
  | nil =>
    rw [List.nil_append] at hmore
    apply hrest
    rw [← (List.cons.inj hmore).2]
    rfl
  | cons c cs => exact hwritten (congrArg some (List.cons.inj hmore).1.symm)

theorem head?_flatMap_escapedBasic (cs : List Char) :
    (cs.flatMap escapedBasic).head? ≠ some '"' := by
  cases cs with
  | nil => simp
  | cons c cs =>
    rw [List.flatMap_cons]
    rcases escapedBasic_cases c with ⟨e, -, hc⟩ | ⟨hquote, -, hc⟩
    · simp [hc]
    · intro h
      rw [hc] at h
      rcases eq_of_mem_head?_escapedControl h with heq | ⟨heq, -⟩
      · cases heq
      · exact hquote heq.symm

section ReadWrite

variable {cs rest : List Char}

theorem read_write_basic (hrest : rest.head? ≠ some '"') :
    Quoted.read (Quoting.basic.write cs ++ rest) = some (String.ofList cs, rest) := by
  have hnot := not_prefix_closing (head?_flatMap_escapedBasic cs) hrest
  simp only [Quoting.write, List.append_assoc, List.cons_append, List.nil_append]
  rw [read_eq_readLine hnot, read.readLine, basic_escaped]
  rfl

theorem read_write_literal (h : Quoting.literal.Admits cs) (hrest : rest.head? ≠ some '\x27') :
    Quoted.read (Quoting.literal.write cs ++ rest) = some (String.ofList cs, rest) := by
  have hhead : cs.head? ≠ some '\x27' := fun heq => (h _ (List.mem_of_mem_head? heq)).2 rfl
  have hnot := not_prefix_closing hhead hrest
  simp only [Quoting.write, List.append_assoc, List.cons_append, List.nil_append]
  rw [read_eq_readLine hnot, read.readLine, literal_append h]
  rfl

theorem read_write_multilineBasic (hrest : rest.head? ≠ some '"') :
    Quoted.read (Quoting.multilineBasic.write cs ++ rest) = some (String.ofList cs, rest) := by
  have hopening : '\n' ∉ cs → ∀ c ∈ (escapedMultiline 0 cs ++ '"' :: '"' :: '"' :: rest).head?,
      isControl c = false ∧ c ≠ '\n' := by
    intro hline c hc
    cases cs with
    | nil =>
      obtain rfl := Option.some.inj hc
      decide
    | cons d cs =>
      rcases eq_of_mem_head?_escapedMultiline hc with rfl | ⟨rfl, hcontrol⟩
      · decide
      · exact ⟨hcontrol, fun heq => hline (heq ▸ List.mem_cons_self)⟩
  simp only [Quoting.write, List.append_assoc, List.cons_append, List.nil_append]
  rw [Quoted.read, dropNewline_opening cs hopening, multilineBasic_escaped (Nat.zero_le 2) cs hrest]
  rfl

theorem read_write_multilineLiteral (h : Quoting.multilineLiteral.Admits cs)
    (hrest : rest.head? ≠ some '\x27') :
    Quoted.read (Quoting.multilineLiteral.write cs ++ rest) = some (String.ofList cs, rest) := by
  have hopening : '\n' ∉ cs → ∀ c ∈ (cs ++ '\x27' :: '\x27' :: '\x27' :: rest).head?,
      isControl c = false ∧ c ≠ '\n' := by
    intro hline c hc
    cases cs with
    | nil =>
      obtain rfl := Option.some.inj hc
      decide
    | cons d cs =>
      obtain rfl := Option.some.inj hc
      exact ⟨h.1 _ List.mem_cons_self, fun heq => hline (heq ▸ List.mem_cons_self)⟩
  simp only [Quoting.write, List.append_assoc, List.cons_append, List.nil_append]
  rw [Quoted.read, dropNewline_opening cs hopening, multilineLiteral_append h.1 h.2 hrest]
  rfl

/-- A quoted text reads back, whatever follows it, unless a quote does. -/
theorem read_write {q : Quoting} (h : q.Admits cs)
    (hrest : ∀ c ∈ rest.head?, c ≠ '"' ∧ c ≠ '\x27') :
    Quoted.read (q.write cs ++ rest) = some (String.ofList cs, rest) := by
  have hdouble : rest.head? ≠ some '"' := fun heq => (hrest _ heq).1 rfl
  have hsingle : rest.head? ≠ some '\x27' := fun heq => (hrest _ heq).2 rfl
  cases q with
  | basic => exact read_write_basic hdouble
  | literal => exact read_write_literal h hsingle
  | multilineBasic => exact read_write_multilineBasic hdouble
  | multilineLiteral => exact read_write_multilineLiteral h hsingle

end ReadWrite

end Conformance.Toml
