import Conformance.KeyedMap
import Mathlib.Data.List.Basic
import Mathlib.Data.List.Perm.Subperm
import Mathlib.Data.List.Sort

/-! Reading keyed maps: which value stands under a key after an insertion, an erasure, or a change
of every entry, and how `get?`, `keys` and `entries` say the same thing. -/

namespace Conformance.KeyedMap

variable {α β γ : Type}

/-- No key stands twice. -/
theorem keys_nodup (m : KeyedMap α) : m.keys.Nodup := by
  rw [keys, List.nodup_iff_pairwise_ne, List.pairwise_map]
  exact m.sorted.imp fun h => String.ne_of_lt h

/-- A list in strictly ascending order of keys is determined by its members. -/
theorem eq_of_ascending (key : β → String) {xs ys : List β}
    (hx : xs.Pairwise fun a b => key a < key b) (hy : ys.Pairwise fun a b => key a < key b)
    (h : ∀ a, a ∈ xs ↔ a ∈ ys) : xs = ys :=
  List.Pairwise.eq_of_mem_iff (r := InvImage (· < ·) key) hx hy h

/-- Maps with the same keys have them in the same order. -/
theorem keys_ext {m : KeyedMap α} {n : KeyedMap β} (h : ∀ key, key ∈ m.keys ↔ key ∈ n.keys) :
    m.keys = n.keys :=
  eq_of_ascending id (List.pairwise_map.mpr m.sorted) (List.pairwise_map.mpr n.sorted) h

theorem lookup_cons_eq (e : String × α) (rest : List (String × α)) (k : String) :
    (e :: rest).lookup k = if k = e.1 then some e.2 else rest.lookup k := by
  rw [List.lookup_cons]
  by_cases h : k = e.1
  · simp [h]
  · simp [beq_eq_false_iff_ne.mpr h, h]

theorem lookup_of_mem {entries : List (String × α)} (h : entries.Pairwise fun a b => a.1 < b.1)
    {key : String} {a : α} (hmem : (key, a) ∈ entries) : entries.lookup key = some a := by
  induction entries with
  | nil => cases hmem
  | cons e rest ih =>
    rw [List.pairwise_cons] at h
    rcases List.mem_cons.mp hmem with rfl | hrest
    · exact List.lookup_cons_self
    · have hne : key ≠ e.1 := (String.ne_of_lt (h.1 _ hrest)).symm
      rw [lookup_cons_eq, if_neg hne]
      exact ih h.2 hrest

theorem mem_of_lookup {entries : List (String × α)} {key : String} {a : α}
    (h : entries.lookup key = some a) : (key, a) ∈ entries := by
  obtain ⟨front, back, rfl, -⟩ := List.lookup_eq_some_iff.mp h
  simp

theorem mem_entries_iff {m : KeyedMap α} {key : String} {a : α} :
    (key, a) ∈ m.entries ↔ m.get? key = some a :=
  ⟨lookup_of_mem m.sorted, mem_of_lookup⟩

theorem mem_keys_iff {m : KeyedMap α} {key : String} : key ∈ m.keys ↔ (m.get? key).isSome := by
  rw [Option.isSome_iff_exists, keys, List.mem_map]
  constructor
  · rintro ⟨⟨k, a⟩, hmem, rfl⟩
    exact ⟨a, mem_entries_iff.mp hmem⟩
  · rintro ⟨a, h⟩
    exact ⟨(key, a), mem_entries_iff.mpr h, rfl⟩

/-- A map is determined by what it holds under each key. -/
theorem ext_get? {m n : KeyedMap α} (h : ∀ key, m.get? key = n.get? key) : m = n := by
  refine ext (eq_of_ascending (·.1) m.sorted n.sorted fun e => ?_)
  rw [mem_entries_iff, mem_entries_iff, h]

theorem lookup_insertEntry (key : String) (a : α) (entries : List (String × α)) (k : String) :
    (insertEntry key a entries).lookup k = if k = key then some a else entries.lookup k := by
  induction entries with
  | nil => rw [insertEntry, lookup_cons_eq]
  | cons e rest ih =>
    simp only [insertEntry]
    split
    · next heq =>
      rw [lookup_cons_eq, lookup_cons_eq, ← heq]
      split <;> rfl
    · next hne =>
      split
      · rw [lookup_cons_eq]
      · rw [lookup_cons_eq, ih, lookup_cons_eq]
        by_cases hk : k = key
        · simp [hk, hne]
        · simp [hk]

theorem get?_insert (m : KeyedMap α) (key : String) (a : α) (k : String) :
    (m.insert key a).get? k = if k = key then some a else m.get? k :=
  lookup_insertEntry key a m.entries k

theorem mem_keys_insert {m : KeyedMap α} {key : String} {a : α} {k : String} :
    k ∈ (m.insert key a).keys ↔ k = key ∨ k ∈ m.keys := by
  rw [mem_keys_iff, get?_insert, mem_keys_iff]
  by_cases hk : k = key <;> simp [hk]

theorem get?_filterMap (m : KeyedMap α) (f : String → α → Option β) (key : String) :
    (m.filterMap f).get? key = (m.get? key).bind (f key) := by
  ext b
  rw [← mem_entries_iff]
  simp only [filterMap, List.mem_filterMap, Option.map_eq_some_iff, Prod.mk.injEq,
    Option.bind_eq_some_iff]
  constructor
  · rintro ⟨⟨k, a⟩, hmem, b', hf, rfl, rfl⟩
    exact ⟨a, mem_entries_iff.mp hmem, hf⟩
  · rintro ⟨a, hget, hf⟩
    exact ⟨(key, a), mem_entries_iff.mpr hget, b, hf, rfl, rfl⟩

theorem get?_filter (m : KeyedMap α) (keep : String → α → Bool) (key : String) :
    (m.filter keep).get? key = (m.get? key).filter (keep key) := by
  ext a
  rw [← mem_entries_iff]
  simp only [filter, List.mem_filter, mem_entries_iff, Option.filter_eq_some_iff]

theorem get?_erase (m : KeyedMap α) (key k : String) :
    (m.erase key).get? k = if k = key then none else m.get? k := by
  rw [erase, get?_filter]
  cases m.get? k with
  | none => simp
  | some a => by_cases h : k = key <;> simp [Option.filter_some, h]

theorem get?_foldl_erase (keys : List String) (m : KeyedMap α) (k : String) :
    (keys.foldl erase m).get? k = if k ∈ keys then none else m.get? k := by
  induction keys generalizing m with
  | nil => simp
  | cons key rest ih =>
    rw [List.foldl_cons, ih, get?_erase]
    by_cases hrest : k ∈ rest
    · simp [hrest]
    · by_cases hk : k = key <;> simp [hrest, hk]

theorem filterMap_eq_self {m : KeyedMap α} {f : String → α → Option α}
    (h : ∀ key a, m.get? key = some a → f key a = some a) : m.filterMap f = m := by
  apply ext
  have hentry : ∀ e ∈ m.entries, (f e.1 e.2).map (e.1, ·) = some e := by
    intro e he
    rw [h e.1 e.2 (mem_entries_iff.mp he), Option.map_some]
  exact (List.filterMap_congr hentry).trans List.filterMap_some

theorem filterMap_filterMap (m : KeyedMap α) (f : String → α → Option β)
    (g : String → β → Option γ) :
    (m.filterMap f).filterMap g = m.filterMap fun key a => (f key a).bind (g key) := by
  apply ext
  simp only [filterMap, List.filterMap_filterMap]
  congr 1
  funext e
  cases f e.1 e.2 <;> rfl

/-- If the key alone decides which entries stay, so it does which keys stay. -/
theorem keys_filterMap {m : KeyedMap α} {f : String → α → Option β} {keep : String → Bool}
    (h : ∀ key a, (f key a).isSome = keep key) : (m.filterMap f).keys = m.keys.filter keep := by
  simp only [keys, filterMap]
  induction m.entries with
  | nil => rfl
  | cons e rest ih =>
    rw [List.map_cons, List.filter_cons, ← h e.1 e.2, ← ih]
    cases hf : f e.1 e.2 <;> simp [hf]

/-! ### Changing one value -/

section Modify

variable (m : KeyedMap α) (f g : α → α) {key : String}

theorem get?_modify (key k : String) :
    (m.modify key f).get? k = (m.get? k).map fun a => if k = key then f a else a := by
  rw [modify, get?_filterMap]
  cases m.get? k <;> rfl

theorem keys_modify (key : String) : (m.modify key f).keys = m.keys := by
  have hkeys : (m.modify key f).keys = m.keys.filter fun _ => true :=
    keys_filterMap fun _ _ => rfl
  rwa [List.filter_true] at hkeys

/-- Storing a value made from the one that is there. -/
theorem insert_eq_modify {a : α} (h : m.get? key = some a) :
    m.insert key (f a) = m.modify key f := by
  refine ext_get? fun k => ?_
  rw [get?_insert, get?_modify]
  by_cases hk : k = key
  · simp [hk, h]
  · simp [hk]

variable {m f g}

theorem modify_eq_self (h : ∀ a, m.get? key = some a → f a = a) : m.modify key f = m := by
  refine filterMap_eq_self fun k a hget => congrArg some ?_
  split
  · next hk => exact h a (hk ▸ hget)
  · rfl

variable (m) in
/-- Two changes commute if they do where they meet. -/
theorem modify_comm {k : String} (h : key = k → ∀ a, f (g a) = g (f a)) :
    (m.modify key f).modify k g = (m.modify k g).modify key f := by
  refine ext_get? fun k' => ?_
  simp only [get?_modify, Option.map_map]
  congr 1
  funext a
  by_cases hkey : k' = key
  · subst hkey
    by_cases hk : k' = k
    · simp [hk, h hk]
    · simp [hk]
  · simp [hkey]

end Modify

theorem mem_keys_ofList {entries : List (String × α)} {key : String} :
    key ∈ (ofList entries).keys ↔ key ∈ entries.map (·.1) := by
  have hfold : ∀ (rest : List (String × α)) (m : KeyedMap α),
      key ∈ (rest.foldl (fun m e => m.insert e.1 e.2) m).keys ↔
        key ∈ m.keys ∨ key ∈ rest.map (·.1) := by
    intro rest
    induction rest with
    | nil => simp
    | cons e rest ih =>
      intro m
      rw [List.foldl_cons, ih, mem_keys_insert, List.map_cons, List.mem_cons]
      constructor
      · rintro ((hk | hm) | hrest)
        exacts [.inr (.inl hk), .inl hm, .inr (.inr hrest)]
      · rintro (hm | hk | hrest)
        exacts [.inl (.inr hm), .inl (.inl hk), .inr hrest]
  rw [ofList, hfold]
  exact or_iff_right List.not_mem_nil

theorem mem_of_mem_ofList {entries : List (String × α)} {e : String × α}
    (h : e ∈ (ofList entries).entries) : e ∈ entries := by
  have hfold : ∀ (rest : List (String × α)) (m : KeyedMap α),
      e ∈ (rest.foldl (fun m e => m.insert e.1 e.2) m).entries → e ∈ m.entries ∨ e ∈ rest := by
    intro rest
    induction rest with
    | nil => exact fun _ => .inl
    | cons e' rest ih =>
      intro m hmem
      rcases ih _ hmem with hinsert | hrest
      · rcases mem_insertEntry hinsert with rfl | hm
        exacts [.inr List.mem_cons_self, .inl hm]
      · exact .inr (List.mem_cons_of_mem _ hrest)
  exact (hfold entries empty h).resolve_left List.not_mem_nil

theorem get?_ofList {entries : List (String × α)} (h : (entries.map (·.1)).Nodup) (key : String) :
    (ofList entries).get? key = entries.lookup key := by
  have hfold : ∀ (rest : List (String × α)) (m : KeyedMap α), (rest.map (·.1)).Nodup →
      (rest.foldl (fun m e => m.insert e.1 e.2) m).get? key =
        (rest.lookup key).or (m.get? key) := by
    intro rest
    induction rest with
    | nil => exact fun _ _ => rfl
    | cons e rest ih =>
      intro m hnodup
      rw [List.map_cons, List.nodup_cons] at hnodup
      rw [List.foldl_cons, ih _ hnodup.2, get?_insert, lookup_cons_eq]
      by_cases hkey : key = e.1
      · have hnone : rest.lookup key = none := by
          rw [List.lookup_eq_none_iff]
          intro f hf
          rw [bne_iff_ne]
          intro heq
          exact hnodup.1 (List.mem_map.mpr ⟨f, hf, heq.symm.trans hkey⟩)
        rw [hnone, if_pos hkey, if_pos hkey]
        rfl
      · simp [hkey]
  rw [ofList, hfold entries empty h]
  exact Option.or_none

/-- The entries of a map give the map again. -/
theorem ofList_entries (m : KeyedMap α) : ofList m.entries = m :=
  ext_get? (get?_ofList m.keys_nodup)

theorem length_keys_ofList_le (entries : List (String × α)) :
    (ofList entries).keys.length ≤ entries.length := by
  have hsubset : (ofList entries).keys ⊆ entries.map (·.1) := fun _ => mem_keys_ofList.mp
  have hle := (List.subperm_of_subset (keys_nodup _) hsubset).length_le
  rwa [List.length_map] at hle

end Conformance.KeyedMap
