import Conformance.Proofs.LoadedKeys

/-! How repeated keys are renamed. A requirement whose key is taken tries one number after another,
from its position on, until the key with the number behind it is free. Nothing bounds the numbers,
but distinct numbers give distinct keys and only finitely many are in use, so every search ends. The
keys that come out are distinct, and nothing but keys is touched. -/

namespace Conformance

namespace RuleFile

/-! ### Renaming step by step -/

/-- The search that starts with the number `n` ends with the number `m`, the first that gives a key
not in use. -/
inductive Search (used : List String) (key : String) : Nat → Nat → Prop
  | free {n : Nat} : numberedKey key n ∉ used → Search used key n n
  | taken {n m : Nat} : numberedKey key n ∈ used → Search used key (n + 1) m → Search used key n m

/-- Going through requirements from position `index` on, with the keys in front of them in use, ends
with these in their place. -/
inductive Renames : Nat → List String → List Requirement → List Requirement → Prop
  | done {index : Nat} {used : List String} : Renames index used [] []
  | kept {index : Nat} {used : List String} {r : Requirement} {rest rest' : List Requirement} :
    r.key ∉ used → Renames (index + 1) (r.key :: used) rest rest' →
    Renames index used (r :: rest) (r :: rest')
  | renamed {index n : Nat} {used : List String} {r : Requirement}
      {rest rest' : List Requirement} :
    r.key ∈ used → Search used r.key index n →
    Renames (index + 1) (numberedKey r.key n :: used) rest rest' →
    Renames index used (r :: rest) ({ r with key := numberedKey r.key n } :: rest')

section Search

variable {used : List String} {key : String} {index n : Nat}

theorem Search.isLeast (h : Search used key index n) : IsLeast (freeNumbers used key index) n := by
  induction h with
  | free hfree => exact ⟨⟨Nat.le_refl _, hfree⟩, fun _ hk => hk.1⟩
  | @taken first m htaken _ ih =>
    refine ⟨⟨Nat.le_of_succ_le ih.1.1, ih.1.2⟩, fun k hk => ih.2 ⟨?_, hk.2⟩⟩
    have hne : first ≠ k := by
      rintro rfl
      exact hk.2 htaken
    exact Nat.lt_of_le_of_ne hk.1 hne

theorem search_of_isLeast (h : IsLeast (freeNumbers used key index) n) :
    Search used key index n := by
  obtain ⟨gap, rfl⟩ := Nat.exists_eq_add_of_le h.1.1
  induction gap generalizing index with
  | zero => exact .free h.1.2
  | succ gap ih =>
    -- A free number here would be less than the least.
    have htaken : numberedKey key index ∈ used := by
      by_contra hfree
      have hle := h.2 ⟨Nat.le_refl index, hfree⟩
      omega
    rw [show index + (gap + 1) = index + 1 + gap by omega] at h ⊢
    exact .taken htaken
      (ih ⟨⟨Nat.le_add_right _ _, h.1.2⟩, fun k hk => h.2 ⟨Nat.le_of_succ_le hk.1, hk.2⟩⟩)

theorem exists_search (used : List String) (key : String) (index : Nat) :
    ∃ n ≤ index + used.length, Search used key index n := by
  obtain ⟨n, hle, hleast, -⟩ := isLeast_freshKey used key index
  exact ⟨n, hle, search_of_isLeast hleast⟩

theorem freshKey_of_search (h : Search used key index n) :
    freshKey used key index = numberedKey key n := by
  obtain ⟨m, -, hleast, hfresh⟩ := isLeast_freshKey used key index
  rw [hfresh, hleast.unique h.isLeast]

end Search

section Run

variable {index : Nat} {used : List String} {rs rs' : List Requirement}

theorem Renames.eq (h : Renames index used rs rs') : rs' = withUniqueKeys index used rs := by
  induction h with
  | done => rfl
  | kept hnew _ ih => rw [withUniqueKeys, uniqueKey_of_notMem hnew, ih]
  | renamed hmem hsearch _ ih =>
    rw [withUniqueKeys, uniqueKey_of_mem hmem, freshKey_of_search hsearch, ih]

theorem renames_withUniqueKeys (index : Nat) (used : List String) (rs : List Requirement) :
    Renames index used rs (withUniqueKeys index used rs) := by
  induction rs generalizing index used with
  | nil => exact .done
  | cons r rest ih =>
    rw [withUniqueKeys]
    by_cases hmem : r.key ∈ used
    · obtain ⟨n, -, hsearch⟩ := exists_search used r.key index
      rw [uniqueKey_of_mem hmem, freshKey_of_search hsearch]
      exact .renamed hmem hsearch (ih _ _)
    · rw [uniqueKey_of_notMem hmem]
      exact .kept hmem (ih _ _)

end Run

/-- Renaming comes to an end for all requirements, by searches that try at most one number more than
there are keys in front, and that end is unique. The keys are then distinct, and the rest is as it
was. Each key is the stored one unless that is in use in front of it, and then has the least number
behind it that makes it new. So distinct keys stay, and renaming again changes nothing. -/
theorem makeKeysUnique_outcome (f : RuleFile) :
    (∀ rs, Renames 0 [] f.requirements rs ↔ rs = f.makeKeysUnique.requirements) ∧
    (∀ used key index, ∃ n ≤ index + used.length, Search used key index n) ∧
    f.makeKeysUnique.keys.Nodup ∧
    f.SameButKeys f.makeKeysUnique ∧
    (∀ i key, f.keys[i]? = some key → ∃ final, f.makeKeysUnique.keys[i]? = some final ∧
      FinalKey (f.makeKeysUnique.keys.take i) i key final) ∧
    (f.makeKeysUnique = f ↔ f.keys.Nodup) ∧
    f.makeKeysUnique.makeKeysUnique = f.makeKeysUnique := by
  have hnodup := f.keys_nodup_makeKeysUnique
  refine ⟨fun rs => ⟨Renames.eq, ?_⟩, exists_search, hnodup, f.sameButKeys_makeKeysUnique,
    fun _ _ => exists_finalKey, ⟨fun hsame => hsame ▸ hnodup, makeKeysUnique_eq_self⟩,
    makeKeysUnique_eq_self hnodup⟩
  rintro rfl
  exact renames_withUniqueKeys 0 [] f.requirements

end RuleFile

namespace Specimen

/-- The first number for the third key is taken, and the next makes it the key of the fourth. -/
def crowded : RuleFile :=
  { requirements := ["1.1", "1.1-2", "1.1", "1.1-3"].map fun key => { key } }

theorem crowded_renamed : crowded.keys[2]? = some "1.1" ∧
    crowded.makeKeysUnique.keys = ["1.1", "1.1-2", "1.1-3", "1.1-3-3"] ∧
    RuleFile.FinalKey ["1.1", "1.1-2"] 2 "1.1" "1.1-3" ∧
    RuleFile.Renames 0 [] crowded.requirements crowded.makeKeysUnique.requirements ∧
    crowded.makeKeysUnique.makeKeysUnique = crowded.makeKeysUnique := by
  have hkey : crowded.keys[2]? = some "1.1" := rfl
  have hkeys : crowded.makeKeysUnique.keys = ["1.1", "1.1-2", "1.1-3", "1.1-3-3"] := by decide
  obtain ⟨hrun, -, -, -, hfinal, -, hagain⟩ := crowded.makeKeysUnique_outcome
  obtain ⟨final, hget, hthird⟩ := hfinal 2 "1.1" hkey
  rw [hkeys] at hget hthird
  obtain rfl := Option.some.inj hget
  exact ⟨hkey, hkeys, hthird, (hrun _).mpr rfl, hagain⟩

end Specimen

end Conformance
