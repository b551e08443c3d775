import Conformance.Proofs.RuleFileUpdate
import Mathlib.Order.Bounds.Basic

/-! Which rule files are valid: those whose keys can index results, with no blank key and no key
twice. In any other file the first key that is blank or repeated is named. -/

namespace Conformance

namespace RuleFile

/-- The scan of the keys finds no offence exactly if none is blank, none repeats one of the keys
seen before, and none repeats another. -/
theorem firstOffence_eq_none_iff {index : Nat} {seen keys : List String} :
    firstOffence index seen keys = none ↔
      (∀ key ∈ keys, Text.isBlank key = false ∧ key ∉ seen) ∧ keys.Nodup := by
  induction keys generalizing index seen with
  | nil => simp [firstOffence]
  | cons key rest ih =>
    rw [firstOffence]
    by_cases hblank : Text.isBlank key = true
    · simp [hblank]
    · by_cases hseen : key ∈ seen
      · simp [hblank, hseen]
      · rw [if_neg hblank, if_neg (by simpa using hseen), ih, List.forall_mem_cons, List.nodup_cons]
        simp only [List.mem_cons, not_or]
        constructor
        · rintro ⟨hrest, hnodup⟩
          have hkey : key ∉ rest := fun hmem => (hrest key hmem).2.1 rfl
          exact ⟨⟨⟨eq_false_of_ne_true hblank, hseen⟩,
            fun k hk => ⟨(hrest k hk).1, (hrest k hk).2.2⟩⟩, hkey, hnodup⟩
        · rintro ⟨⟨-, hrest⟩, hkey, hnodup⟩
          refine ⟨fun k hk => ⟨(hrest k hk).1, ?_, (hrest k hk).2⟩, hnodup⟩
          rintro rfl
          exact hkey hk

variable {f : RuleFile}

theorem validate_eq_ok_iff :
    f.validate = .ok () ↔ (∀ key ∈ f.keys, Text.isBlank key = false) ∧ f.keys.Nodup := by
  have hscan : f.validate = .ok () ↔ firstOffence 0 [] f.keys = none := by
    rw [validate]
    cases firstOffence 0 [] f.keys <;> simp
  rw [hscan, firstOffence_eq_none_iff]
  simp

theorem keys_nodup_of_validate (h : f.validate = .ok ()) : f.keys.Nodup :=
  (validate_eq_ok_iff.mp h).2

/-- What is found under the key of a requirement is that requirement. -/
theorem requirement?_of_validate (h : f.validate = .ok ()) {r : Requirement}
    (hr : r ∈ f.requirements) : f.requirement? r.key = some r :=
  requirement?_of_mem (keys_nodup_of_validate h) hr

theorem validate_of_perm {g : RuleFile} (hperm : g.requirements.Perm f.requirements)
    (h : f.validate = .ok ()) : g.validate = .ok () := by
  have hkeys : g.keys.Perm f.keys := hperm.map _
  obtain ⟨hblank, hnodup⟩ := validate_eq_ok_iff.mp h
  exact validate_eq_ok_iff.mpr
    ⟨fun key hkey => hblank key (hkeys.mem_iff.mp hkey), hkeys.nodup_iff.mpr hnodup⟩

/-! ### The first offence -/

/-- The key at position `i` is blank or stands before that position as well. -/
def OffendsAt (keys : List String) (i : Nat) : Prop :=
  ∃ key, keys[i]? = some key ∧ (Text.isBlank key = true ∨ key ∈ keys.take i)

/-- What is said of an offending key at position `i`. -/
def offence (i : Nat) (key : String) : RuleFileError :=
  if Text.isBlank key then .emptyKey i else .duplicateKey key

theorem offendsAt_append {front rest : List String} {i : Nat} (hi : i < front.length) :
    OffendsAt (front ++ rest) i ↔ OffendsAt front i := by
  unfold OffendsAt
  rw [List.getElem?_append_left hi, List.take_append_of_le_length (by omega)]

theorem not_offendsAt {keys : List String} (hblank : ∀ key ∈ keys, Text.isBlank key = false)
    (hnodup : keys.Nodup) (i : Nat) : ¬OffendsAt keys i := by
  rintro ⟨key, hkey, hoffends⟩
  obtain ⟨hi, hget⟩ := List.getElem?_eq_some_iff.mp hkey
  rcases hoffends with h | hearlier
  · rw [hblank key (List.mem_of_getElem? hkey)] at h
    cases h
  · obtain ⟨j, hj, hsame⟩ := List.mem_take_iff_getElem.mp hearlier
    have hij : j = i := (hnodup.getElem_inj_iff).mp (hsame.trans hget.symm)
    omega

/-- A scan that stops has passed an unobjectionable stretch of the keys and names the next one. -/
theorem exists_of_firstOffence {index : Nat} {seen keys : List String} {e : RuleFileError}
    (h : firstOffence index seen keys = some e) : ∃ front key rest, keys = front ++ key :: rest ∧
      firstOffence index seen front = none ∧
      (Text.isBlank key = true ∨ key ∈ seen ∨ key ∈ front) ∧
      e = offence (index + front.length) key := by
  induction keys generalizing index seen with
  | nil => cases h
  | cons key rest ih =>
    rw [firstOffence] at h
    by_cases hblank : Text.isBlank key = true
    · rw [if_pos hblank, Option.some_inj] at h
      exact ⟨[], key, rest, rfl, rfl, .inl hblank, by simp [offence, hblank, ← h]⟩
    by_cases hseen : seen.contains key = true
    · rw [if_neg hblank, if_pos hseen, Option.some_inj] at h
      have hmem : key ∈ seen := by simpa using hseen
      exact ⟨[], key, rest, rfl, rfl, .inr (.inl hmem), by simp [offence, hblank, ← h]⟩
    -- This key passes; the scan goes on with it among the keys seen.
    rw [if_neg hblank, if_neg hseen] at h
    obtain ⟨front, key', rest', rfl, hfront, hoffends, rfl⟩ := ih h
    refine ⟨key :: front, key', rest', rfl, ?_, ?_, ?_⟩
    · rw [firstOffence, if_neg hblank, if_neg hseen, hfront]
    · simpa [or_assoc, or_left_comm] using hoffends
    · rw [List.length_cons, Nat.add_right_comm, Nat.add_assoc]

theorem exists_isLeast_of_validate {e : RuleFileError} (h : f.validate = .error e) :
    ∃ i key, IsLeast {i | OffendsAt f.keys i} i ∧ f.keys[i]? = some key ∧ e = offence i key := by
  have hscan : firstOffence 0 [] f.keys = some e := by
    unfold validate at h
    cases hfirst : firstOffence 0 [] f.keys <;> simp_all
  obtain ⟨front, key, rest, hkeys, hfront, hoffends, he⟩ := exists_of_firstOffence hscan
  obtain ⟨hclean, hnodup⟩ := firstOffence_eq_none_iff.mp hfront
  have hkey : f.keys[front.length]? = some key := by simp [hkeys]
  refine ⟨front.length, key, ⟨⟨key, hkey, ?_⟩, fun j (hj : OffendsAt _ j) => ?_⟩, hkey,
    by simpa using he⟩
  · simpa [hkeys] using hoffends
  · by_contra hlt
    rw [hkeys, offendsAt_append (by omega)] at hj
    exact not_offendsAt (fun k hk => (hclean k hk).1) hnodup j hj

/-- The error is the one about the least offending position, and there is an error wherever there is
such a position. -/
theorem validate_eq_error_iff {e : RuleFileError} :
    f.validate = .error e ↔
      ∃ i key, IsLeast {i | OffendsAt f.keys i} i ∧ f.keys[i]? = some key ∧ e = offence i key := by
  refine ⟨exists_isLeast_of_validate, ?_⟩
  rintro ⟨i, key, hleast, hkey, rfl⟩
  cases hvalid : f.validate with
  | ok =>
    obtain ⟨hblank, hnodup⟩ := validate_eq_ok_iff.mp hvalid
    exact absurd hleast.1 (not_offendsAt hblank hnodup i)
  | error e =>
    obtain ⟨i', key', hleast', hkey', rfl⟩ := exists_isLeast_of_validate hvalid
    obtain rfl : i' = i := hleast'.unique hleast
    obtain rfl : key' = key := Option.some_inj.mp (hkey'.symm.trans hkey)
    rfl

/-- A valid file is one whose keys all have a character that is not white space and are pairwise
distinct; it can be looked up by key and reordered. In any other file the first key that is blank or
equal to an earlier one is named, as a blank one if it is blank. -/
theorem validate_outcome (f : RuleFile) :
    (f.validate = .ok () ↔
      (∀ r ∈ f.requirements, ∃ c ∈ r.key.toList, Text.isSpace c = false) ∧
        f.requirements.Pairwise fun r t => r.key ≠ t.key) ∧
    (∀ e, f.validate = .error e ↔ ∃ i key, IsLeast {i | OffendsAt f.keys i} i ∧
      f.keys[i]? = some key ∧ e = if Text.isBlank key then .emptyKey i else .duplicateKey key) ∧
    (f.validate = .ok () → (∀ r ∈ f.requirements, f.requirement? r.key = some r) ∧
      ∀ g : RuleFile, g.requirements.Perm f.requirements → g.validate = .ok ()) := by
  refine ⟨?_, fun e => validate_eq_error_iff, fun h =>
    ⟨fun r hr => requirement?_of_validate h hr, fun g hperm => validate_of_perm hperm h⟩⟩
  rw [validate_eq_ok_iff, keys, List.forall_mem_map, List.nodup_iff_pairwise_ne, List.pairwise_map]
  simp [Text.isBlank, List.all_eq_false]

end RuleFile

namespace Specimen

/-- A rule file with a blank key, after which a key and the blank one are repeated. -/
def spoiled : RuleFile :=
  { second with requirements := [kept, { back with key := " " }, kept, { gone with key := " " }] }

/-- The blank key is named with its position. The second rule file can be reordered. -/
theorem spoiled_refused : spoiled.validate = .error (.emptyKey 1) ∧
    { second with requirements := second.requirements.reverse }.validate = .ok () := by
  have hleast : IsLeast {i | RuleFile.OffendsAt spoiled.keys i} 1 := by
    refine ⟨⟨" ", rfl, .inl rfl⟩, ?_⟩
    rintro (_ | j) ⟨key, hkey, hoffends⟩
    · obtain rfl : "kept" = key := Option.some_inj.mp hkey
      rcases hoffends with hblank | hearlier
      · exact absurd hblank (by decide)
      · cases hearlier
    · omega
  exact ⟨((RuleFile.validate_outcome spoiled).2.1 _).mpr ⟨1, " ", hleast, rfl, rfl⟩,
    ((RuleFile.validate_outcome second).2.2 (by decide)).2 _ (List.reverse_perm _)⟩

end Specimen

end Conformance
