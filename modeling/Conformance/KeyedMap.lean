/-! Maps from text to values, kept as entries in strictly ascending key order. Keys are ordered by
their code points. The order is part of the type, so two maps with the same entries are equal and
every walk over a map is in key order. -/

namespace Conformance

/-- Entries in strictly ascending key order; in particular no key occurs twice. -/
structure KeyedMap (α : Type) where
  entries : List (String × α)
  sorted : entries.Pairwise fun a b => a.1 < b.1

namespace KeyedMap

variable {α β : Type}

@[ext] theorem ext {m n : KeyedMap α} (h : m.entries = n.entries) : m = n := by
  cases m; cases n; cases h; rfl

instance [DecidableEq α] : DecidableEq (KeyedMap α) := fun m n =>
  if h : m.entries = n.entries then isTrue (ext h) else isFalse fun e => h (congrArg entries e)

def empty : KeyedMap α := ⟨[], .nil⟩

instance : EmptyCollection (KeyedMap α) := ⟨empty⟩

instance : Inhabited (KeyedMap α) := ⟨empty⟩

def keys (m : KeyedMap α) : List String := m.entries.map (·.1)

def values (m : KeyedMap α) : List α := m.entries.map (·.2)

/-- The value stored under `key`. -/
def get? (m : KeyedMap α) (key : String) : Option α := m.entries.lookup key

def contains (m : KeyedMap α) (key : String) : Bool := (m.get? key).isSome

/-- The entries with `key` set to `value`, at its place in the order. -/
def insertEntry (key : String) (value : α) : List (String × α) → List (String × α)
  | [] => [(key, value)]
  | entry :: rest =>
    if key = entry.1 then (key, value) :: rest
    else if key < entry.1 then (key, value) :: entry :: rest
    else entry :: insertEntry key value rest

theorem mem_insertEntry {key : String} {value : α} {entries : List (String × α)}
    {e : String × α} (h : e ∈ insertEntry key value entries) :
    e = (key, value) ∨ e ∈ entries := by
  induction entries with
  | nil => simpa [insertEntry] using h
  | cons entry rest ih =>
    simp only [insertEntry] at h
    split at h
    · simp only [List.mem_cons] at h ⊢
      exact h.imp_right .inr
    · split at h
      · simpa only [List.mem_cons] using h
      · simp only [List.mem_cons] at h ⊢
        rcases h with h | h
        · exact .inr (.inl h)
        · exact (ih h).imp_right .inr

/-- Text is totally ordered. -/
theorem lt_of_ne_of_not_lt {a b : String} (hne : a ≠ b) (h : ¬a < b) : b < a :=
  String.not_le.mp fun hab => hne (String.le_antisymm hab (String.not_lt.mp h))

theorem sorted_insertEntry (key : String) (value : α) {entries : List (String × α)}
    (h : entries.Pairwise fun a b => a.1 < b.1) :
    (insertEntry key value entries).Pairwise fun a b => a.1 < b.1 := by
  induction entries with
  | nil => simp [insertEntry]
  | cons entry rest ih =>
    rw [List.pairwise_cons] at h
    simp only [insertEntry]
    split
    · next heq => exact List.pairwise_cons.mpr ⟨fun e he => heq ▸ h.1 e he, h.2⟩
    · next hne =>
      split
      · next hlt =>
        refine List.pairwise_cons.mpr ⟨fun e he => ?_, List.pairwise_cons.mpr h⟩
        rcases List.mem_cons.mp he with rfl | he
        · exact hlt
        · exact String.lt_trans hlt (h.1 e he)
      · next hnlt =>
        refine List.pairwise_cons.mpr ⟨fun e he => ?_, ih h.2⟩
        rcases mem_insertEntry he with rfl | he
        · exact lt_of_ne_of_not_lt hne hnlt
        · exact h.1 e he

/-- The map with `key` set to `value`; an earlier value is replaced. -/
def insert (m : KeyedMap α) (key : String) (value : α) : KeyedMap α :=
  ⟨insertEntry key value m.entries, sorted_insertEntry key value m.sorted⟩

/-- The map of the entries; of several with one key the last counts. -/
def ofList (entries : List (String × α)) : KeyedMap α :=
  entries.foldl (fun m e => m.insert e.1 e.2) empty

/-- The entries that `keep` accepts. -/
def filter (m : KeyedMap α) (keep : String → α → Bool) : KeyedMap α :=
  ⟨m.entries.filter fun e => keep e.1 e.2, m.sorted.filter _⟩

/-- The map without `key`. -/
def erase (m : KeyedMap α) (key : String) : KeyedMap α := m.filter fun k _ => k != key

/-- Every value replaced or, where `f` gives nothing, dropped with its key. -/
def filterMap (m : KeyedMap α) (f : String → α → Option β) : KeyedMap β where
  entries := m.entries.filterMap fun e => (f e.1 e.2).map (e.1, ·)
  sorted := by
    refine List.Pairwise.filterMap _ (fun a a' h b hb b' hb' => ?_) m.sorted
    obtain ⟨x, _, rfl⟩ := Option.map_eq_some_iff.mp hb
    obtain ⟨x', _, rfl⟩ := Option.map_eq_some_iff.mp hb'
    exact h

/-- The value under `key`, if there is one, replaced by `f` of it. -/
def modify (m : KeyedMap α) (key : String) (f : α → α) : KeyedMap α :=
  m.filterMap fun k a => some (if k = key then f a else a)

/-- Whether `p` holds of some value. -/
def any (m : KeyedMap α) (p : α → Bool) : Bool := m.values.any p

end KeyedMap
end Conformance
