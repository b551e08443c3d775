import Conformance.Loading.Audit
import Conformance.Proofs.RuleFileUpdate
import Conformance.Proofs.Text
import Mathlib.Data.List.Nodup
import Mathlib.Data.List.Perm.Subperm
import Mathlib.Order.Bounds.Basic

/-! What becomes of repeated requirement keys when a stored audit is loaded. A repeat gets the least
number behind its key that is unused so far: it is chosen against the keys in front of it only. So
the first requirement under a key keeps the key, and with it the results that are stored under it,
unless a repeat in front of it is given that very key; then it is numbered in turn. Under the key
that it ends up with every requirement is found. -/

namespace Conformance

namespace RuleFile

/-- The numbers from `index` on that give a key not in use. -/
def freeNumbers (used : List String) (key : String) (index : Nat) : Set Nat :=
  {n | index ≤ n ∧ numberedKey key n ∉ used}

/-- The key that a requirement at position `index` ends up with: its own unless that is in use, and
else the one with the least free number. -/
inductive FinalKey (used : List String) (index : Nat) (key : String) : String → Prop
  | own : key ∉ used → FinalKey used index key key
  | numbered {n : Nat} : key ∈ used → IsLeast (freeNumbers used key index) n →
    FinalKey used index key (numberedKey key n)

/-- Rule files that differ at most in the keys of their requirements. -/
structure SameButKeys (f g : RuleFile) : Prop where
  metadata : g.metadata = f.metadata
  requirements : List.Forall₂ (fun r q => q = { r with key := q.key }) f.requirements g.requirements

/-! ### One key -/

section Key

variable {used : List String} {key : String} {index : Nat}

theorem uniqueKey_of_notMem (h : key ∉ used) : uniqueKey used key index = key := by
  rw [uniqueKey, if_neg]
  simpa using h

theorem uniqueKey_of_mem (h : key ∈ used) :
    uniqueKey used key index = freshKey used key index := by
  rw [uniqueKey, if_pos]
  simpa using h

theorem numberedKey_injective (key : String) : Function.Injective (numberedKey key) := by
  intro m n h
  rw [numberedKey, numberedKey, String.append_right_inj] at h
  exact Text.toString_injective h

/-- One number more than there are keys in use gives one key more than those. -/
theorem exists_free (used : List String) (key : String) (index : Nat) :
    ∃ k ≤ used.length, numberedKey key (index + k) ∉ used := by
  by_contra hnone
  have htaken : ∀ k ≤ used.length, numberedKey key (index + k) ∈ used := fun k hk =>
    by_contra fun hfree => hnone ⟨k, hk, hfree⟩
  let candidates := (List.range (used.length + 1)).map fun k => numberedKey key (index + k)
  have hall : candidates ⊆ used := by
    intro candidate hmem
    obtain ⟨k, hk, rfl⟩ := List.mem_map.mp hmem
    exact htaken k (Nat.le_of_lt_succ (List.mem_range.mp hk))
  have hnodup : candidates.Nodup :=
    List.nodup_range.map fun _ _ h => Nat.add_left_cancel (numberedKey_injective key h)
  have hle := (List.subperm_of_subset hnodup hall).length_le
  simp only [candidates, List.length_map, List.length_range] at hle
  omega

theorem isLeast_freshKey (used : List String) (key : String) (index : Nat) :
    ∃ n ≤ index + used.length, IsLeast (freeNumbers used key index) n ∧
      freshKey used key index = numberedKey key n := by
  let free := fun n => !used.contains (numberedKey key n)
  let found := (List.range (used.length + 1)).find? (free <| index + ·)
  have hfresh : freshKey used key index =
      numberedKey key ((found.map (index + ·)).getD index) := by
    rw [freshKey, List.find?_map]
    rfl
  cases hfind : found with
  | none =>
    obtain ⟨k, hk, hfree⟩ := exists_free used key index
    have htaken := List.find?_eq_none.mp hfind k (List.mem_range.mpr (Nat.lt_succ_of_le hk))
    simp [free, hfree] at htaken
  | some k =>
    obtain ⟨hk, hmem, hbefore⟩ := List.find?_range_eq_some.mp hfind
    have hle : k ≤ used.length := Nat.le_of_lt_succ (List.mem_range.mp hmem)
    refine ⟨index + k, by omega, ⟨⟨Nat.le_add_right _ _, by simpa [free] using hk⟩, ?_⟩, ?_⟩
    · rintro m ⟨hm, hfree⟩
      obtain ⟨d, rfl⟩ := Nat.exists_eq_add_of_le hm
      by_contra hlt
      have htaken := hbefore d (by omega)
      simp [free, hfree] at htaken
    · rw [hfresh, hfind]
      rfl

theorem finalKey_uniqueKey (used : List String) (index : Nat) (key : String) :
    FinalKey used index key (uniqueKey used key index) := by
  by_cases hmem : key ∈ used
  · obtain ⟨n, -, hleast, hfresh⟩ := isLeast_freshKey used key index
    rw [uniqueKey_of_mem hmem, hfresh]
    exact .numbered hmem hleast
  · rw [uniqueKey_of_notMem hmem]
    exact .own hmem

/-- Only which keys are in use counts, not their order. -/
theorem FinalKey.congr {used' : List String} (hused : ∀ k, k ∈ used ↔ k ∈ used')
    {final : String} (h : FinalKey used index key final) : FinalKey used' index key final := by
  have hfree : freeNumbers used key index = freeNumbers used' key index := by
    simp only [freeNumbers, hused]
  cases h with
  | own hnew => exact .own (mt (hused key).mpr hnew)
  | numbered hmem hleast => exact .numbered ((hused key).mp hmem) (hfree ▸ hleast)

theorem FinalKey.notMem {final : String} (h : FinalKey used index key final) : final ∉ used := by
  cases h with
  | own hnew => exact hnew
  | numbered _ hleast => exact hleast.1.2

end Key

/-! ### All keys -/

section Run

variable {rs : List Requirement}

theorem forall₂_withUniqueKeys (index : Nat) (used : List String) (rs : List Requirement) :
    List.Forall₂ (fun r q => q = { r with key := q.key }) rs (withUniqueKeys index used rs) := by
  induction rs generalizing index used with
  | nil => exact .nil
  | cons r rest ih => exact .cons rfl (ih _ _)

theorem finalKey_withUniqueKeys (index : Nat) (used : List String) {i : Nat} {key : String}
    (h : (rs.map (·.key))[i]? = some key) :
    ∃ final, ((withUniqueKeys index used rs).map (·.key))[i]? = some final ∧
      FinalKey (((withUniqueKeys index used rs).map (·.key)).take i ++ used) (index + i) key
        final := by
  induction rs generalizing index used i with
  | nil => cases h
  | cons r rest ih =>
    rw [withUniqueKeys, List.map_cons]
    cases i with
    | zero =>
      obtain rfl := Option.some.inj h
      exact ⟨_, rfl, finalKey_uniqueKey used index r.key⟩
    | succ i =>
      obtain ⟨final, hget, hfinal⟩ := ih (index + 1) (uniqueKey used r.key index :: used) h
      refine ⟨final, hget, ?_⟩
      -- The key given here was in use for the rest, and is now one of those in front.
      rw [show index + (i + 1) = index + 1 + i by omega, List.take_succ_cons]
      refine hfinal.congr fun k => ?_
      simp only [List.mem_append, List.mem_cons, or_left_comm, or_assoc]

/-- Renamed keys differ from each other and from the keys in use. -/
theorem nodup_withUniqueKeys (index : Nat) (used : List String) (rs : List Requirement) :
    ((withUniqueKeys index used rs).map (·.key)).Nodup ∧
      ∀ key ∈ (withUniqueKeys index used rs).map (·.key), key ∉ used := by
  -- The second part carries the induction: the keys given so far are in use for the rest.
  induction rs generalizing index used with
  | nil => simp [withUniqueKeys]
  | cons r rest ih =>
    obtain ⟨hnodup, hfresh⟩ := ih (index + 1) (uniqueKey used r.key index :: used)
    rw [withUniqueKeys, List.map_cons, List.nodup_cons, List.forall_mem_cons]
    refine ⟨⟨fun hmem => hfresh _ hmem List.mem_cons_self, hnodup⟩,
      (finalKey_uniqueKey used index r.key).notMem, fun key hkey hused => ?_⟩
    exact hfresh key hkey (List.mem_cons_of_mem _ hused)

/-- Keys that are distinct, from each other and from those in use, stay. -/
theorem withUniqueKeys_eq_self {rs : List Requirement} (hkeys : (rs.map (·.key)).Nodup)
    {used : List String} (hused : ∀ r ∈ rs, r.key ∉ used) (index : Nat) :
    withUniqueKeys index used rs = rs := by
  induction rs generalizing used index with
  | nil => rfl
  | cons r rest ih =>
    rw [List.map_cons, List.nodup_cons] at hkeys
    rw [List.forall_mem_cons] at hused
    have hrest : ∀ q ∈ rest, q.key ∉ r.key :: used := by
      intro q hq
      rw [List.mem_cons, not_or]
      exact ⟨fun heq => hkeys.1 (heq ▸ List.mem_map_of_mem hq), hused.2 q hq⟩
    rw [withUniqueKeys, uniqueKey_of_notMem hused.1, ih hkeys.2 hrest]

end Run

section Renamed

variable {f : RuleFile} {i : Nat} {r : Requirement}

theorem sameButKeys_makeKeysUnique (f : RuleFile) : f.SameButKeys f.makeKeysUnique :=
  ⟨rfl, forall₂_withUniqueKeys 0 [] f.requirements⟩

theorem keys_nodup_makeKeysUnique (f : RuleFile) : f.makeKeysUnique.keys.Nodup :=
  (nodup_withUniqueKeys 0 [] f.requirements).1

theorem makeKeysUnique_eq_self (h : f.keys.Nodup) : f.makeKeysUnique = f := by
  rw [makeKeysUnique, withUniqueKeys_eq_self h fun _ _ => List.not_mem_nil]

theorem keys_getElem? (h : f.requirements[i]? = some r) : f.keys[i]? = some r.key := by
  rw [keys, List.getElem?_map, h, Option.map_some]

theorem SameButKeys.getElem? {g : RuleFile} {q : Requirement} (h : f.SameButKeys g)
    (hr : f.requirements[i]? = some r) (hq : g.requirements[i]? = some q) :
    q = { r with key := q.key } := by
  obtain ⟨hi, rfl⟩ := List.getElem?_eq_some_iff.mp hr
  obtain ⟨hi', rfl⟩ := List.getElem?_eq_some_iff.mp hq
  exact h.requirements.get hi hi'

theorem exists_finalKey {key : String} (h : f.keys[i]? = some key) :
    ∃ final, f.makeKeysUnique.keys[i]? = some final ∧
      FinalKey (f.makeKeysUnique.keys.take i) i key final := by
  have hfinal : ∃ final, f.makeKeysUnique.keys[i]? = some final ∧
      FinalKey (f.makeKeysUnique.keys.take i ++ []) (0 + i) key final :=
    finalKey_withUniqueKeys 0 [] h
  simpa only [List.append_nil, Nat.zero_add] using hfinal

/-- The requirement stored at position `i` ends up under `final`, and is found there. -/
structure EndsUp (f : RuleFile) (i : Nat) (r : Requirement) (final : String) : Prop where
  stored : f.requirements[i]? = some r
  place : f.makeKeysUnique.keys[i]? = some final
  finalKey : FinalKey (f.makeKeysUnique.keys.take i) i r.key final
  found : f.makeKeysUnique.requirement? final = some { r with key := final }

theorem endsUp_of_stored (h : f.requirements[i]? = some r) : ∃ final, f.EndsUp i r final := by
  obtain ⟨final, hplace, hfinal⟩ := exists_finalKey (keys_getElem? h)
  refine ⟨final, h, hplace, hfinal, ?_⟩
  rw [keys, List.getElem?_map, Option.map_eq_some_iff] at hplace
  obtain ⟨q, hq, rfl⟩ := hplace
  rw [← f.sameButKeys_makeKeysUnique.getElem? h hq]
  exact requirement?_of_mem f.keys_nodup_makeKeysUnique (List.mem_of_getElem? hq)

theorem exists_endsUp {final : String} (h : f.makeKeysUnique.keys[i]? = some final) :
    ∃ r, f.EndsUp i r final := by
  have hlength := f.sameButKeys_makeKeysUnique.requirements.length_eq
  obtain ⟨hi, -⟩ := List.getElem?_eq_some_iff.mp h
  rw [keys, List.length_map, ← hlength] at hi
  obtain ⟨final', hends⟩ := endsUp_of_stored (List.getElem?_eq_getElem hi)
  obtain rfl : final' = final := Option.some.inj (hends.place.symm.trans h)
  exact ⟨_, hends⟩

end Renamed

/-! ### Looking up a stored key -/

/-- A requirement in front of the first one under `key` is renamed to `key`. -/
def TakenOver (f : RuleFile) (key : String) : Prop :=
  ∃ i < f.keys.idxOf key, f.makeKeysUnique.keys[i]? = some key

instance (f : RuleFile) (key : String) : Decidable (f.TakenOver key) :=
  inferInstanceAs (Decidable (∃ i < f.keys.idxOf key, f.makeKeysUnique.keys[i]? = some key))

/-- The requirement at position `i` has a key that is in use in front of it. It gets the number `n`
behind that key, the least from its position on that is unused so far. -/
structure NumberedAt (f : RuleFile) (i : Nat) (r : Requirement) (n : Nat) : Prop where
  stored : f.requirements[i]? = some r
  inUse : r.key ∈ f.makeKeysUnique.keys.take i
  least : IsLeast (freeNumbers (f.makeKeysUnique.keys.take i) r.key i) n

section Lookup

variable {f : RuleFile} {key : String} {r : Requirement}

theorem EndsUp.numbered {i : Nat} {final : String} (h : f.EndsUp i r final) (hne : r.key ≠ final) :
    ∃ n, f.NumberedAt i r n ∧ final = numberedKey r.key n := by
  cases h.finalKey with
  | own => exact absurd rfl hne
  | numbered hmem hleast => exact ⟨_, ⟨h.stored, hmem, hleast⟩, rfl⟩

/-- The requirement found under a key is the one at the first position of the key. -/
theorem requirement?_eq_getElem? (f : RuleFile) (key : String) :
    f.requirement? key = f.requirements[f.keys.idxOf key]? := by
  rw [requirement?, List.find?_eq_getElem?_findIdx, keys, List.idxOf, List.findIdx_map]
  rfl

theorem takenOver_iff : f.TakenOver key ↔
    key ∈ f.makeKeysUnique.keys.take (f.keys.idxOf key) := by
  rw [List.mem_take_iff_getElem]
  constructor
  · rintro ⟨i, hi, htaken⟩
    obtain ⟨hlength, hget⟩ := List.getElem?_eq_some_iff.mp htaken
    exact ⟨i, by omega, hget⟩
  · rintro ⟨i, hi, hget⟩
    exact ⟨i, by omega, List.getElem?_eq_some_iff.mpr ⟨by omega, hget⟩⟩

/-- What was stored first under `key` stays there, unless the key is in use in front of it by then. -/
theorem requirement?_makeKeysUnique (h : f.requirement? key = some r) (hfree : ¬f.TakenOver key) :
    f.makeKeysUnique.requirement? key = some r := by
  obtain rfl := key_of_requirement? h
  rw [requirement?_eq_getElem?] at h
  obtain ⟨final, hends⟩ := endsUp_of_stored h
  have hfinal := hends.finalKey
  have hfound := hends.found
  rw [takenOver_iff] at hfree
  cases hfinal with
  | own => exact hfound
  | numbered hmem => exact absurd hmem hfree

/-- A key that is taken over leads to the requirement that took it. -/
theorem TakenOver.exists_other (h : f.TakenOver key) :
    ∃ i other n, i < f.keys.idxOf key ∧ f.NumberedAt i other n ∧ key = numberedKey other.key n ∧
      f.makeKeysUnique.requirement? key = some { other with key } := by
  obtain ⟨i, hi, hplace⟩ := h
  obtain ⟨other, hends⟩ := exists_endsUp hplace
  obtain ⟨hlength, hget⟩ := List.getElem?_eq_some_iff.mp (keys_getElem? hends.stored)
  have hne : other.key ≠ key := by
    have hbefore := List.not_of_lt_findIdx hi
    rwa [hget, beq_eq_false_iff_ne] at hbefore
  obtain ⟨n, hnumbered, hnumber⟩ := hends.numbered hne
  exact ⟨i, other, n, hi, hnumbered, hnumber, hends.found⟩

/-- What was stored first under a key that is taken over is numbered, and found under its new key. -/
theorem TakenOver.exists_numbered (htaken : f.TakenOver key) (h : f.requirement? key = some r) :
    ∃ n, f.NumberedAt (f.keys.idxOf key) r n ∧
      f.makeKeysUnique.requirement? (numberedKey key n) =
        some { r with key := numberedKey key n } := by
  obtain rfl := key_of_requirement? h
  rw [requirement?_eq_getElem?] at h
  obtain ⟨final, hends⟩ := endsUp_of_stored h
  have hne : r.key ≠ final := by
    rintro rfl
    exact hends.finalKey.notMem (takenOver_iff.mp htaken)
  obtain ⟨n, hnumbered, rfl⟩ := hends.numbered hne
  exact ⟨n, hnumbered, hends.found⟩

/-- No key is taken over that is not another stored key with a number behind it. -/
theorem not_takenOver (h : ∀ other ∈ f.keys, ∀ n, key ≠ numberedKey other n) :
    ¬f.TakenOver key := by
  intro htaken
  obtain ⟨i, other, n, -, hnumbered, hkey, -⟩ := htaken.exists_other
  exact h other.key (List.mem_map_of_mem (List.mem_of_getElem? hnumbered.stored)) n hkey

end Lookup

end RuleFile

namespace Loading

section Audit

variable {j : Json} {a : Audit} {f : RuleFile} {e : RuleFileError}

theorem audit_of_decode (h : decodeAuditRuleFile j = .ok f) : audit j = .ok
    { ruleFile := f.makeKeysUnique
      samples := samples (j.member? "samples")
      tombstones := tombstones (j.member? "tombstones") } := by
  rw [audit, h]
  rfl

theorem audit_of_error (h : decodeAuditRuleFile j = .error e) : audit j = .error e := by
  rw [audit, h]
  rfl

theorem exists_decoded_of_audit (h : audit j = .ok a) :
    ∃ f, decodeAuditRuleFile j = .ok f ∧ a.ruleFile = f.makeKeysUnique := by
  cases hf : decodeAuditRuleFile j with
  | error e =>
    rw [audit_of_error hf] at h
    cases h
  | ok f =>
    rw [audit_of_decode hf] at h
    obtain rfl := Except.ok.inj h
    exact ⟨f, rfl, rfl⟩

end Audit

/-- Under every stored key, a loaded audit finds the requirement that was stored first under it,
unchanged, unless a repeat in front of that one is numbered to that very key; then it finds that
repeat, and the one stored first under the key is found under a number of its own. Only a key that
is another stored key with a number behind it can be lost so. -/
theorem requirement?_of_audit {j : Json} {a : Audit} (h : audit j = .ok a) :
    ∃ f, decodeAuditRuleFile j = .ok f ∧ ∀ key r, f.requirement? key = some r →
      (¬f.TakenOver key → a.ruleFile.requirement? key = some r) ∧
      (f.TakenOver key →
        (∃ i other n, i < f.keys.idxOf key ∧ f.NumberedAt i other n ∧
          key = RuleFile.numberedKey other.key n ∧
          a.ruleFile.requirement? key = some { other with key }) ∧
        ∃ n, f.NumberedAt (f.keys.idxOf key) r n ∧
          a.ruleFile.requirement? (RuleFile.numberedKey key n) =
            some { r with key := RuleFile.numberedKey key n }) ∧
      ((∀ other ∈ f.keys, ∀ n, key ≠ RuleFile.numberedKey other n) → ¬f.TakenOver key) := by
  obtain ⟨f, hf, hfile⟩ := exists_decoded_of_audit h
  rw [hfile]
  exact ⟨f, hf, fun key r hr => ⟨RuleFile.requirement?_makeKeysUnique hr,
    fun htaken => ⟨htaken.exists_other, htaken.exists_numbered hr⟩, RuleFile.not_takenOver⟩⟩

end Loading

namespace Specimen

/-- A stored audit whose second requirement repeats the key of the first. -/
def repeating : Json :=
  .object [("ruleFile", .object [("requirements", .array
    [.object [("key", .text "1.1"), ("title", .text "First")],
     .object [("key", .text "1.1"), ("title", .text "Second")],
     .object [("key", .text "1.1-1"), ("title", .text "Third")]])])]

def repeatingFile : RuleFile :=
  { requirements := [{ key := "1.1", title := "First" }, { key := "1.1", title := "Second" },
      { key := "1.1-1", title := "Third" }] }

/-- The first key is kept. The third is given to the second requirement, and the third requirement
is found under a key with a number of its own. -/
theorem repeated_key_kept : ∃ a, Loading.audit repeating = .ok a ∧
    Loading.decodeAuditRuleFile repeating = .ok repeatingFile ∧
    repeatingFile.requirement? "1.1" = some { key := "1.1", title := "First" } ∧
    ¬repeatingFile.TakenOver "1.1" ∧
    a.ruleFile.requirement? "1.1" = some { key := "1.1", title := "First" } ∧
    repeatingFile.requirement? "1.1-1" = some { key := "1.1-1", title := "Third" } ∧
    repeatingFile.TakenOver "1.1-1" ∧
    ∃ n, a.ruleFile.requirement? (RuleFile.numberedKey "1.1-1" n) =
      some { key := RuleFile.numberedKey "1.1-1" n, title := "Third" } := by
  have hdecoded : Loading.decodeAuditRuleFile repeating = .ok repeatingFile := rfl
  have hfirst : repeatingFile.requirement? "1.1" = some { key := "1.1", title := "First" } := rfl
  have hthird : repeatingFile.requirement? "1.1-1" = some { key := "1.1-1", title := "Third" } := rfl
  have hfree : ¬repeatingFile.TakenOver "1.1" := by decide
  have htaken : repeatingFile.TakenOver "1.1-1" := by decide
  obtain ⟨a, ha⟩ : ∃ a, Loading.audit repeating = .ok a := ⟨_, rfl⟩
  obtain ⟨f, hf, hlookup⟩ := Loading.requirement?_of_audit ha
  obtain rfl : repeatingFile = f := Except.ok.inj (hdecoded.symm.trans hf)
  obtain ⟨-, n, -, hnumbered⟩ := (hlookup "1.1-1" _ hthird).2.1 htaken
  exact ⟨a, ha, hdecoded, hfirst, hfree, (hlookup "1.1" _ hfirst).1 hfree, hthird, htaken, n,
    hnumbered⟩

/-- The second requirement gets the key of the third, so results stored under the key of the third
are read as results of the second. -/
theorem repeat_takes_over_key : ∃ a, Loading.audit repeating = .ok a ∧
    Loading.decodeAuditRuleFile repeating = .ok repeatingFile ∧
    repeatingFile.requirement? "1.1-1" = some { key := "1.1-1", title := "Third" } ∧
    a.ruleFile.requirement? "1.1-1" = some { key := "1.1-1", title := "Second" } :=
  ⟨_, rfl, rfl, rfl, rfl⟩

end Specimen

end Conformance
