import Conformance.Proofs.Quoting
import Conformance.Toml.Parser
import Mathlib.Data.List.Nodup
import Mathlib.Data.List.TakeDrop
import Mathlib.Logic.Relation

/-! Documents of tables, each under a header of its own, with one key and its value on each line.
Such a document reads back as the tables that were written, in their order. The reader is followed
line by line: a line takes it from one state to the next, and a document ends in the state with all
its tables. -/

namespace Conformance.Toml

open Relation

/-! ### Lines -/

/-- A line takes the reader from a state with some characters left to a state with fewer, and uses
up one of the lines that it may read. -/
def ReadsLine (before after : Parser.State × List Char) : Prop :=
  after.2.length < before.2.length ∧
    ∀ fuel, Parser.lines (fuel + 1) before.1 before.2 = Parser.lines fuel after.1 after.2

/-- There are no more lines than characters. -/
theorem lines_of_reads {before after : Parser.State × List Char}
    (h : ReflTransGen ReadsLine before after) : ∃ n, n + after.2.length ≤ before.2.length ∧
      ∀ fuel, Parser.lines (fuel + n) before.1 before.2 = Parser.lines fuel after.1 after.2 := by
  induction h with
  | refl => exact ⟨0, by omega, fun _ => rfl⟩
  | tail _ hline ih =>
    obtain ⟨n, hlength, hlines⟩ := ih
    refine ⟨n + 1, by have := hline.1; omega, fun fuel => ?_⟩
    rw [Nat.add_comm n 1, ← Nat.add_assoc, hlines, hline.2]

theorem parse?_of_reads {source : String} {s : Parser.State}
    (hmark : source.toList.head? ≠ some '\ufeff')
    (h : ReflTransGen ReadsLine ({}, source.toList) (s, [])) : parse? source = some s.entries := by
  obtain ⟨n, hlength, hlines⟩ := lines_of_reads h
  have hfuel : source.toList.length + 1 = (source.toList.length - n) + 1 + n := by
    simp at hlength
    omega
  have hall : Parser.lines (source.toList.length + 1) {} source.toList = some s.entries := by
    rw [hfuel, hlines]
    rfl
  unfold parse?
  split
  · next heq => simp [heq] at hmark
  · exact hall

theorem readsLine_blank (s : Parser.State) (rest : List Char) :
    ReadsLine (s, '\n' :: rest) (s, rest) :=
  ⟨by simp, fun _ => rfl⟩

/-! ### Keys -/

/-- A name that needs no quotes. -/
def IsBare (name : String) : Prop := name.toList ≠ [] ∧ ∀ c ∈ name.toList, Parser.isKeyChar c = true

instance (name : String) : Decidable (IsBare name) :=
  decidable_of_iff (name.toList ≠ [] ∧ name.toList.all Parser.isKeyChar = true)
    (and_congr_right fun _ => List.all_eq_true)

theorem isBlank_of_isKeyChar {c : Char} (h : Parser.isKeyChar c = true) : isBlank c = false := by
  unfold isBlank
  rw [Bool.or_eq_false_iff, beq_eq_false_iff_ne, beq_eq_false_iff_ne]
  constructor <;> rintro rfl <;> cases h

theorem IsBare.skipBlanks_append {name : String} (h : IsBare name) (rest : List Char) :
    skipBlanks (name.toList ++ rest) = name.toList ++ rest := by
  obtain ⟨c, cs, hcs⟩ := List.exists_cons_of_ne_nil h.1
  have hc := isBlank_of_isKeyChar (h.2 c (hcs ▸ List.mem_cons_self))
  rw [hcs, List.cons_append, skipBlanks, List.dropWhile_cons_of_neg (by simp [hc])]

theorem keyPart_of_isBare {name : String} (h : IsBare name) {c : Char} {rest : List Char}
    (hc : Parser.isKeyChar c = false) :
    Parser.keyPart (name.toList ++ c :: rest) = some (name, c :: rest) := by
  have hspan : (name.toList ++ c :: rest).span Parser.isKeyChar = (name.toList, c :: rest) := by
    rw [List.span_eq_takeWhile_dropWhile, List.takeWhile_append_of_pos h.2,
      List.dropWhile_append_of_pos h.2]
    simp [hc]
  have hquote : ∀ d more, name.toList ++ c :: rest = d :: more → Parser.isKeyChar d = true := by
    intro d more heq
    obtain ⟨e, cs, hcs⟩ := List.exists_cons_of_ne_nil h.1
    rw [hcs, List.cons_append] at heq
    exact (List.cons.inj heq).1 ▸ h.2 e (hcs ▸ List.mem_cons_self)
  unfold Parser.keyPart
  split
  · next more heq => cases hquote _ more heq
  · next more heq => cases hquote _ more heq
  · simp only [hspan, List.isEmpty_iff, h.1, if_false, String.ofList_toList]

/-- A bare key at the front, up to a character that cannot stand in one. -/
theorem key_of_isBare {name : String} (h : IsBare name) {c : Char} {rest : List Char}
    (hc : Parser.isKeyChar c = false) (hdot : (skipBlanks (c :: rest)).head? ≠ some '.') :
    Parser.key depthLimit (name.toList ++ c :: rest) =
      some (([], name), skipBlanks (c :: rest)) := by
  unfold depthLimit Parser.key
  rw [h.skipBlanks_append, keyPart_of_isBare h hc]
  simp only [Option.bind_eq_bind, Option.bind_some]
  split
  · next heq => simp [heq] at hdot
  · rfl

/-! ### Entries and headers -/

/-- The characters of a value, if a line break follows them. -/
def Denotes (v : Node) (written : List Char) : Prop :=
  ∀ rest, Parser.value depthLimit (skipBlanks (written ++ '\n' :: rest)) = some (v, '\n' :: rest)

theorem denotes_printText (s : String) : Denotes (.text s) (printText s).toList := by
  intro rest
  have hread : Quoted.read ((Quoting.choose s.toList).write s.toList ++ '\n' :: rest) =
      some (s, '\n' :: rest) := by
    rw [read_write (Quoting.admits_choose s.toList) (by simp), String.ofList_toList]
  rw [printText, String.toList_ofList]
  obtain ⟨c, cs, hwrite, hc⟩ := Quoting.exists_quote_write (Quoting.choose s.toList) s.toList
  rw [hwrite, List.cons_append] at hread ⊢
  have hskip : skipBlanks (c :: (cs ++ '\n' :: rest)) = c :: (cs ++ '\n' :: rest) := by
    rcases hc with rfl | rfl <;> rfl
  rw [hskip, depthLimit]
  rcases hc with rfl | rfl
  all_goals
    rw [Parser.value, hread]
    rfl

/-- A key with its value and the characters that the value is written with. -/
structure Entry where
  key : String
  value : Node
  written : List Char

def Entry.line (e : Entry) : List Char := e.key.toList ++ ' ' :: '=' :: ' ' :: e.written ++ ['\n']

theorem Entry.line_append (e : Entry) (rest : List Char) : e.line ++ rest =
    e.key.toList ++ ' ' :: '=' :: ' ' :: (e.written ++ '\n' :: rest) := by
  simp [line]

theorem entryLine_line {e : Entry} (hkey : IsBare e.key) (hvalue : Denotes e.value e.written)
    (s : Parser.State) (rest : List Char) :
    Parser.entryLine s (e.line ++ rest) = (s.add [] e.key e.value).map (·, rest) := by
  have hkey' : Parser.key depthLimit (e.line ++ rest) =
      some (([], e.key), '=' :: ' ' :: (e.written ++ '\n' :: rest)) := by
    rw [e.line_append]
    exact key_of_isBare hkey rfl (by simp [skipBlanks, isBlank])
  have hblank : skipBlanks (' ' :: (e.written ++ '\n' :: rest)) =
      skipBlanks (e.written ++ '\n' :: rest) := rfl
  have hvalue' : Parser.keyValue (Parser.value depthLimit) (e.line ++ rest) =
      some (([], e.key), e.value, '\n' :: rest) := by
    simp only [Parser.keyValue, hkey', Option.bind_eq_bind, Option.bind_some, hblank, hvalue rest]
    rfl
  simp only [Parser.entryLine, hvalue', Option.bind_eq_bind, Option.bind_some]
  show (s.add [] e.key e.value).bind _ = _
  rw [Option.map_eq_bind]
  rfl

theorem tableHeader_bare {name : String} (h : IsBare name) (s : Parser.State) (rest : List Char) :
    Parser.tableHeader s (name.toList ++ ']' :: '\n' :: rest) =
      (s.openAt [] name openTable).map (·, rest) := by
  have hkey : Parser.key depthLimit (name.toList ++ ']' :: '\n' :: rest) =
      some (([], name), ']' :: '\n' :: rest) :=
    key_of_isBare h rfl (by simp [skipBlanks, isBlank])
  simp only [Parser.tableHeader, hkey, Option.bind_eq_bind, Option.bind_some]
  show (s.openAt [] name openTable).bind _ = _
  rw [Option.map_eq_bind]
  rfl

theorem readsLine_entry {e : Entry} (hkey : IsBare e.key) (hvalue : Denotes e.value e.written)
    {s s' : Parser.State} (hadd : s.add [] e.key e.value = some s') (rest : List Char) :
    ReadsLine (s, e.line ++ rest) (s', rest) := by
  refine ⟨by simp [Entry.line]; omega, fun fuel => ?_⟩
  have hentry := entryLine_line hkey hvalue s rest
  rw [hadd] at hentry
  have hskip : skipBlanks (e.line ++ rest) = e.line ++ rest := by
    rw [e.line_append]
    exact hkey.skipBlanks_append _
  obtain ⟨c, cs, hcs⟩ := List.exists_cons_of_ne_nil hkey.1
  have hc := hkey.2 c (hcs ▸ List.mem_cons_self)
  obtain ⟨more, hmore⟩ : ∃ more, e.line ++ rest = c :: more := by
    rw [e.line_append, hcs]
    exact ⟨_, rfl⟩
  show Parser.lines (fuel + 1) s (e.line ++ rest) = _
  rw [Parser.lines, hskip]
  rw [hmore] at hentry ⊢
  split
  all_goals try (next heq => obtain ⟨rfl, -⟩ := List.cons.inj heq; cases hc)
  · next heq => cases heq
  · rw [hentry]
    rfl

theorem readsLine_header {name : String} (h : IsBare name) {s s' : Parser.State}
    (hopen : s.openAt [] name openTable = some s') (rest : List Char) :
    ReadsLine (s, '[' :: (name.toList ++ ']' :: '\n' :: rest)) (s', rest) := by
  refine ⟨by simp; omega, fun fuel => ?_⟩
  have hheader := tableHeader_bare h s rest
  rw [hopen] at hheader
  obtain ⟨c, cs, hcs⟩ := List.exists_cons_of_ne_nil h.1
  have hc := h.2 c (hcs ▸ List.mem_cons_self)
  rw [hcs] at hheader ⊢
  have hskip : skipBlanks ('[' :: (c :: cs ++ ']' :: '\n' :: rest)) =
    '[' :: (c :: cs ++ ']' :: '\n' :: rest) := rfl
  show Parser.lines (fuel + 1) s ('[' :: (c :: cs ++ ']' :: '\n' :: rest)) = _
  rw [Parser.lines, hskip]
  split
  · next heq => cases heq
  · next heq => cases heq
  · next heq => cases heq
  · next heq => cases heq
  · next heq =>
    obtain ⟨rfl, -⟩ := List.cons.inj (List.cons.inj heq).2
    cases hc
  · next heq =>
    obtain ⟨-, rfl⟩ := List.cons.inj heq
    rw [hheader]
    rfl
  · next h => exact absurd rfl (h _)

/-! ### Tables -/

theorem lookup_eq_none {entries : Entries} {key : String} (h : key ∉ entries.map (·.1)) :
    entries.lookup key = none := by
  rw [List.lookup_eq_none_iff]
  intro e he
  rw [bne_iff_ne]
  rintro rfl
  exact h (List.mem_map_of_mem he)

theorem setEntry_last {entries : Entries} {key : String} (h : key ∉ entries.map (·.1))
    (old new : Node) : setEntry key new (entries ++ [(key, old)]) = entries ++ [(key, new)] := by
  induction entries with
  | nil => simp [setEntry]
  | cons e entries ih =>
    rw [List.map_cons, List.mem_cons, not_or] at h
    rw [List.cons_append, setEntry, if_neg (Ne.symm h.1), ih h.2, List.cons_append]

/-- The state after `done` tables, in the middle of one more. -/
def inTable (done : Entries) (name : String) (table : Entries) : Parser.State :=
  { entries := done ++ [(name, .table .header table)], path := [name] }

theorem openAt_root {s : Parser.State} {name : String} (h : name ∉ s.entries.map (·.1)) :
    s.openAt [] name openTable = some (inTable s.entries name []) := by
  simp [Parser.State.openAt, editAt, openTable, lookup_eq_none h, inTable]

theorem add_inTable {done table : Entries} {name key : String} (hname : name ∉ done.map (·.1))
    (hkey : key ∉ table.map (·.1)) (v : Node) :
    (inTable done name table).add [] key v =
      some (inTable done name (table ++ [(key, v)])) := by
  simp [Parser.State.add, inTable, editAt, addValue, List.lookup_append, lookup_eq_none hname,
    lookup_eq_none hkey, setEntry_last hname]

/-- A table under a header of its own. -/
structure Section where
  name : String
  entries : List Entry

namespace Section

def table (t : Section) : Entries := t.entries.map fun e => (e.key, e.value)

def lines (t : Section) : List Char :=
  '[' :: (t.name.toList ++ ']' :: '\n' :: t.entries.flatMap Entry.line)

def keys (t : Section) : List String := t.entries.map (·.key)

/-- No name needs quotes, no key stands twice, and the values are written as they should be. -/
structure WellFormed (t : Section) : Prop where
  bare : ∀ name ∈ t.name :: t.keys, IsBare name
  nodup : t.keys.Nodup
  values : ∀ e ∈ t.entries, Denotes e.value e.written

theorem reads_entries {done table : Entries} {name : String} (hname : name ∉ done.map (·.1))
    {es : List Entry} (hkeys : ∀ e ∈ es, IsBare e.key)
    (hvalues : ∀ e ∈ es, Denotes e.value e.written)
    (hnodup : (table.map (·.1) ++ es.map (·.key)).Nodup) (rest : List Char) :
    ReflTransGen ReadsLine (inTable done name table, es.flatMap Entry.line ++ rest)
      (inTable done name (table ++ es.map fun e => (e.key, e.value)), rest) := by
  induction es generalizing table with
  | nil => simpa using ReflTransGen.refl
  | cons e es ih =>
    rw [List.forall_mem_cons] at hkeys hvalues
    have hkey : e.key ∉ table.map (·.1) := fun hmem =>
      List.disjoint_of_nodup_append hnodup hmem List.mem_cons_self
    have hstep := readsLine_entry hkeys.1 hvalues.1 (add_inTable hname hkey e.value)
      (es.flatMap Entry.line ++ rest)
    -- The entry moves from the keys to come to the keys of the table.
    have hnodup' : ((table ++ [(e.key, e.value)]).map (·.1) ++ es.map (·.key)).Nodup := by
      simpa [List.append_assoc] using hnodup
    have hrest := ih hkeys.2 hvalues.2 hnodup'
    rw [List.flatMap_cons, List.append_assoc]
    refine .head hstep ?_
    simpa [List.append_assoc] using hrest

theorem reads_lines {t : Section} (h : t.WellFormed) {s : Parser.State}
    (hname : t.name ∉ s.entries.map (·.1)) (rest : List Char) :
    ReflTransGen ReadsLine (s, t.lines ++ rest) (inTable s.entries t.name t.table, rest) := by
  have hbare := List.forall_mem_cons.mp h.bare
  have hheader := readsLine_header hbare.1 (openAt_root hname)
    (t.entries.flatMap Entry.line ++ rest)
  have hkeys : ∀ e ∈ t.entries, IsBare e.key := fun e he => hbare.2 _ (List.mem_map_of_mem he)
  have hentries : ReflTransGen ReadsLine
      (inTable s.entries t.name [], t.entries.flatMap Entry.line ++ rest)
      (inTable s.entries t.name t.table, rest) :=
    reads_entries hname hkeys h.values (by simpa [keys] using h.nodup) rest
  have hlines : t.lines ++ rest =
      '[' :: (t.name.toList ++ ']' :: '\n' :: (t.entries.flatMap Entry.line ++ rest)) := by
    simp [lines]
  rw [hlines]
  exact .head hheader hentries

/-- Tables one after another, with an empty line between any two. -/
def document : List Section → List Char
  | [] => []
  | [t] => t.lines
  | t :: ts => t.lines ++ '\n' :: document ts

def tables (ts : List Section) : Entries := ts.map fun t => (t.name, .table .header t.table)

theorem reads_document {ts : List Section} (h : ∀ t ∈ ts, t.WellFormed) {s : Parser.State}
    (hnodup : (s.entries.map (·.1) ++ ts.map (·.name)).Nodup) :
    ∃ s' : Parser.State, s'.entries = s.entries ++ tables ts ∧
      ReflTransGen ReadsLine (s, document ts) (s', []) := by
  fun_induction document ts generalizing s with
  | case1 => exact ⟨s, by simp [tables], .refl⟩
  | case2 t =>
    have hnew : t.name ∉ s.entries.map (·.1) := fun hmem =>
      List.disjoint_of_nodup_append hnodup hmem List.mem_cons_self
    have hlines := reads_lines (h t List.mem_cons_self) hnew []
    rw [List.append_nil] at hlines
    exact ⟨_, rfl, hlines⟩
  | case3 t ts _ ih =>
    have hnew : t.name ∉ s.entries.map (·.1) := fun hmem =>
      List.disjoint_of_nodup_append hnodup hmem List.mem_cons_self
    rw [List.forall_mem_cons] at h
    obtain ⟨s', hentries, hreads⟩ := ih h.2 (s := inTable s.entries t.name t.table)
      (by simpa [inTable, List.append_assoc] using hnodup)
    refine ⟨s', by simp [hentries, inTable, tables], ?_⟩
    exact (reads_lines h.1 hnew _).trans (.head (readsLine_blank _ _) hreads)

/-- A document of tables with different names reads back as these tables, in their order. -/
theorem parse?_document {ts : List Section} (h : ∀ t ∈ ts, t.WellFormed)
    (hnodup : (ts.map (·.name)).Nodup) :
    parse? (String.ofList (document ts)) = some (tables ts) := by
  have hnodup' : ((({} : Parser.State).entries).map (·.1) ++ ts.map (·.name)).Nodup := by
    simpa using hnodup
  obtain ⟨s, hentries, hreads⟩ := reads_document h hnodup'
  have hmark : (document ts).head? ≠ some '\ufeff' := by
    match ts with
    | [] => simp [document]
    | [t] => simp [document, lines]
    | t :: u :: ts => simp [document, lines]
  have hsource : (String.ofList (document ts)).toList = document ts := String.toList_ofList
  rw [← hsource] at hmark hreads
  rw [parse?_of_reads hmark hreads, hentries]
  rfl

end Section

end Conformance.Toml
