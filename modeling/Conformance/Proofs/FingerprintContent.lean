import Conformance.Fingerprint
import Conformance.Proofs.KeyedMap
import Conformance.Proofs.Text
import Mathlib.Algebra.Ring.Nat
import Mathlib.Tactic.MkIffOfInductiveProp

/-! What a fingerprint determines. Every field and every list is hashed with its length before it,
so the hashed bytes determine the checks of a requirement, up to white space around their texts, and
its content types, as a set of trimmed names. The lengths are written in eight bytes: that is enough
for every text and list that fits into the memory of a machine with 64-bit addresses. -/

namespace Conformance

/-- The hash tells the two byte strings apart: they do not collide. -/
def Blake3.Separates (x y : List UInt8) : Prop := hash x = hash y → x = y

theorem Blake3.length_hash (bytes : List UInt8) : (hash bytes).length = 32 := by
  have hword : ∀ ws : List UInt32, (ws.flatMap wordBytes).length = 4 * ws.length := by
    intro ws
    induction ws with
    | nil => rfl
    | cons w rest ih =>
      rw [List.flatMap_cons, List.length_append, ih, List.length_cons, wordBytes]
      simp only [List.length_cons, List.length_nil]
      omega
  rw [hash, hword, Vector.length_toList]

theorem Blake3.hexDigits_inj {a b : UInt8}
    (hhigh : Nat.digitChar (a.toNat / 16) = Nat.digitChar (b.toNat / 16))
    (hlow : Nat.digitChar (a.toNat % 16) = Nat.digitChar (b.toNat % 16)) : a = b := by
  have hdigit : ∀ m n : Fin 16, Nat.digitChar m = Nat.digitChar n → m = n := by decide
  have ha := a.toNat_lt
  have hb := b.toNat_lt
  have h1 := hdigit ⟨a.toNat / 16, by omega⟩ ⟨b.toNat / 16, by omega⟩ hhigh
  have h2 := hdigit ⟨a.toNat % 16, by omega⟩ ⟨b.toNat % 16, by omega⟩ hlow
  rw [Fin.mk.injEq] at h1 h2
  exact UInt8.toNat_inj.mp (by omega)

theorem Blake3.hex_inj {x y : List UInt8} (h : hex x = hex y) : x = y := by
  have hchars := congrArg String.toList h
  rw [hex, hex, String.toList_ofList, String.toList_ofList] at hchars
  clear h
  induction x generalizing y with
  | nil =>
    cases y with
    | nil => rfl
    | cons b rest => simp at hchars
  | cons a rest ih =>
    cases y with
    | nil => simp at hchars
    | cons b rest' =>
      simp only [List.flatMap_cons, List.cons_append, List.nil_append, List.cons.injEq] at hchars
      obtain ⟨hhigh, hlow, hrest⟩ := hchars
      rw [hexDigits_inj hhigh hlow, ih hrest]

/-! ### Texts and lists within the size of the machine -/

@[mk_iff]
structure Criterion.Fits (p : Criterion) : Prop where
  id : p.id.utf8ByteSize < 2 ^ 64
  requirement : p.requirement.utf8ByteSize < 2 ^ 64
  failureTemplate : p.failureTemplate.utf8ByteSize < 2 ^ 64

instance (p : Criterion) : Decidable p.Fits := decidable_of_iff' _ (Criterion.fits_iff p)

@[mk_iff]
structure Check.Fits (c : Check) : Prop where
  id : c.id.utf8ByteSize < 2 ^ 64
  condition : c.condition.utf8ByteSize < 2 ^ 64
  criteria_length : c.criteria.length < 2 ^ 64
  criteria : ∀ p ∈ c.criteria, p.Fits

instance (c : Check) : Decidable c.Fits := decidable_of_iff' _ (Check.fits_iff c)

@[mk_iff]
structure Requirement.Fits (r : Requirement) : Prop where
  contentTypes_length : r.contentTypes.length < 2 ^ 64
  contentTypes : ∀ t ∈ r.contentTypes, t.utf8ByteSize < 2 ^ 64
  checks_length : r.checks.length < 2 ^ 64
  checks : ∀ c ∈ r.checks, c.Fits

instance (r : Requirement) : Decidable r.Fits := decidable_of_iff' _ (Requirement.fits_iff r)

/-! ### What is hashed -/

/-- The criterion without the white space around its texts. -/
def Criterion.normal (p : Criterion) : Criterion :=
  { p with requirement := Text.trim p.requirement, failureTemplate := Text.trim p.failureTemplate }

/-- The check without the white space around its texts. -/
def Check.normal (c : Check) : Check :=
  { c with condition := Text.trim c.condition, criteria := c.criteria.map Criterion.normal }

namespace Fingerprint

theorem length_countBytes (n : Nat) : (countBytes n).length = 8 := by
  rw [countBytes, List.length_map, List.length_range]

/-- The first `k` bytes of a number determine it up to `2 ^ (8 * k)`. -/
theorem mod_eq_of_bytes {m n : Nat} (k : Nat)
    (h : ∀ i < k, m / 2 ^ (8 * i) % 256 = n / 2 ^ (8 * i) % 256) :
    m % 2 ^ (8 * k) = n % 2 ^ (8 * k) := by
  induction k with
  | zero => simp [Nat.mod_one]
  | succ k ih =>
    have hlow := ih fun i hi => h i (Nat.lt_succ_of_lt hi)
    have hpow : 2 ^ (8 * (k + 1)) = 2 ^ (8 * k) * 256 := by rw [Nat.mul_succ, Nat.pow_add]
    rw [hpow, Nat.mod_mul, Nat.mod_mul, hlow, h k (Nat.lt_succ_self k)]

theorem countBytes_inj {m n : Nat} (hm : m < 2 ^ 64) (hn : n < 2 ^ 64)
    (h : countBytes m = countBytes n) : m = n := by
  have hbyte : ∀ i < 8, m / 2 ^ (8 * i) % 256 = n / 2 ^ (8 * i) % 256 := by
    intro i hi
    have hi' := congrArg (·[i]?) h
    simp only [countBytes, List.getElem?_map, List.getElem?_range hi, Option.map_some,
      Option.some.injEq] at hi'
    have hnat := congrArg UInt8.toNat hi'
    rwa [UInt8.toNat_ofNat', UInt8.toNat_ofNat', Nat.shiftRight_eq_div_pow,
      Nat.shiftRight_eq_div_pow] at hnat
  calc m
      = m % 2 ^ (8 * 8) := (Nat.mod_eq_of_lt hm).symm
    _ = n % 2 ^ (8 * 8) := mod_eq_of_bytes 8 hbyte
    _ = n := Nat.mod_eq_of_lt hn

theorem countBytes_append {m n : Nat} (hm : m < 2 ^ 64) (hn : n < 2 ^ 64) {x y : List UInt8}
    (h : countBytes m ++ x = countBytes n ++ y) : m = n ∧ x = y := by
  obtain ⟨hcount, hrest⟩ := List.append_inj h (by rw [length_countBytes, length_countBytes])
  exact ⟨countBytes_inj hm hn hcount, hrest⟩

/-- A field can be read off the front of a byte string. -/
theorem fieldBytes_append {s t : String} (hs : s.utf8ByteSize < 2 ^ 64)
    (ht : t.utf8ByteSize < 2 ^ 64) {x y : List UInt8} (h : fieldBytes s ++ x = fieldBytes t ++ y) :
    s = t ∧ x = y := by
  rw [fieldBytes, fieldBytes, List.append_assoc, List.append_assoc] at h
  obtain ⟨hsize, h⟩ := countBytes_append hs ht h
  obtain ⟨hbytes, hrest⟩ := List.append_inj h hsize
  refine ⟨String.toByteArray_inj.mp (ByteArray.ext (Array.toList_inj.mp hbytes)), hrest⟩

/-- If a member can be read off the front of a byte string, so can a list of known length. -/
theorem flatMap_append {α β : Type} {fits : α → Prop} {view : α → β} {encode : α → List UInt8}
    (hread : ∀ a b x y, fits a → fits b → encode a ++ x = encode b ++ y → view a = view b ∧ x = y)
    {as bs : List α} (ha : ∀ a ∈ as, fits a) (hb : ∀ b ∈ bs, fits b)
    (hlength : as.length = bs.length) {x y : List UInt8}
    (h : as.flatMap encode ++ x = bs.flatMap encode ++ y) :
    as.map view = bs.map view ∧ x = y := by
  induction as generalizing bs with
  | nil =>
    obtain rfl : bs = [] := List.length_eq_zero_iff.mp hlength.symm
    exact ⟨rfl, h⟩
  | cons a as ih =>
    cases bs with
    | nil => cases hlength
    | cons b bs =>
      rw [List.forall_mem_cons] at ha hb
      rw [List.flatMap_cons, List.flatMap_cons, List.append_assoc, List.append_assoc] at h
      obtain ⟨hview, h⟩ := hread a b _ _ ha.1 hb.1 h
      obtain ⟨hviews, hrest⟩ := ih ha.2 hb.2 (Nat.succ.inj hlength) h
      exact ⟨by rw [List.map_cons, List.map_cons, hview, hviews], hrest⟩

theorem fits_trim {s : String} (h : s.utf8ByteSize < 2 ^ 64) :
    (Text.trim s).utf8ByteSize < 2 ^ 64 :=
  Nat.lt_of_le_of_lt (Text.utf8ByteSize_trim_le s) h

/-- The content types in a fingerprint are the trimmed ones of the requirement, without blank
ones. -/
theorem mem_contentTypes {r : Requirement} {t : String} :
    t ∈ contentTypes r ↔ t ≠ "" ∧ ∃ raw ∈ r.contentTypes, Text.trim raw = t := by
  rw [contentTypes, KeyedMap.mem_keys_ofList, List.map_map]
  simp only [Function.comp_def, List.map_id', List.mem_filter, List.mem_map, Bool.not_eq_true',
    String.isEmpty_eq_false_iff]
  exact and_comm

theorem length_contentTypes_le (r : Requirement) :
    (contentTypes r).length ≤ r.contentTypes.length := by
  have hkeys := KeyedMap.length_keys_ofList_le
    (((r.contentTypes.map Text.trim).filter (! ·.isEmpty)).map (·, ()))
  have hfilter := List.length_filter_le (! ·.isEmpty) (r.contentTypes.map Text.trim)
  rw [List.length_map] at hkeys hfilter
  exact Nat.le_trans hkeys hfilter

theorem scopeBytes_inj {a b : Requirement} (ha : a.Fits) (hb : b.Fits)
    (h : scopeBytes a = scopeBytes b) : contentTypes a = contentTypes b := by
  have hfits : ∀ {r : Requirement}, r.Fits → ∀ t ∈ contentTypes r, t.utf8ByteSize < 2 ^ 64 := by
    intro r hr t ht
    obtain ⟨-, raw, hraw, rfl⟩ := mem_contentTypes.mp ht
    exact fits_trim (hr.contentTypes raw hraw)
  have hread : ∀ (s t : String) (x y : List UInt8), s.utf8ByteSize < 2 ^ 64 →
      t.utf8ByteSize < 2 ^ 64 → fieldBytes s ++ x = fieldBytes t ++ y → id s = id t ∧ x = y :=
    fun s t x y hs ht h => fieldBytes_append hs ht h
  rw [scopeBytes, scopeBytes] at h
  obtain ⟨hlength, h⟩ :=
    countBytes_append (Nat.lt_of_le_of_lt (length_contentTypes_le a) ha.contentTypes_length)
      (Nat.lt_of_le_of_lt (length_contentTypes_le b) hb.contentTypes_length) h
  rw [← List.append_nil ((contentTypes a).flatMap _),
    ← List.append_nil ((contentTypes b).flatMap _)] at h
  have hviews := (flatMap_append hread (hfits ha) (hfits hb) hlength h).1
  rwa [List.map_id, List.map_id] at hviews

theorem criterionBytes_append (p q : Criterion) (x y : List UInt8) (hp : p.Fits) (hq : q.Fits)
    (h : criterionBytes p ++ x = criterionBytes q ++ y) : p.normal = q.normal ∧ x = y := by
  simp only [criterionBytes, List.append_assoc] at h
  obtain ⟨hid, h⟩ := fieldBytes_append hp.id hq.id h
  obtain ⟨hrequirement, h⟩ :=
    fieldBytes_append (fits_trim hp.requirement) (fits_trim hq.requirement) h
  obtain ⟨htemplate, h⟩ :=
    fieldBytes_append (fits_trim hp.failureTemplate) (fits_trim hq.failureTemplate) h
  refine ⟨?_, h⟩
  rw [Criterion.normal, Criterion.normal, hid, hrequirement, htemplate]

theorem logic_name_inj {k l : Logic} (h : Named.name k = Named.name l) : k = l := by
  cases k <;> cases l <;> first | rfl | exact absurd h (by decide)

theorem checkBytes_append (c d : Check) (x y : List UInt8) (hc : c.Fits) (hd : d.Fits)
    (h : checkBytes c ++ x = checkBytes d ++ y) : c.normal = d.normal ∧ x = y := by
  simp only [checkBytes, List.append_assoc] at h
  have hlogic : ∀ l : Logic, (Named.name l).utf8ByteSize < 2 ^ 64 := by
    intro l
    cases l <;> decide
  obtain ⟨hid, h⟩ := fieldBytes_append hc.id hd.id h
  obtain ⟨hcondition, h⟩ := fieldBytes_append (fits_trim hc.condition) (fits_trim hd.condition) h
  obtain ⟨hname, h⟩ := fieldBytes_append (hlogic _) (hlogic _) h
  obtain ⟨hlength, h⟩ := countBytes_append hc.criteria_length hd.criteria_length h
  obtain ⟨hcriteria, h⟩ :=
    flatMap_append criterionBytes_append hc.criteria hd.criteria hlength h
  refine ⟨?_, h⟩
  rw [Check.normal, Check.normal, hid, hcondition, logic_name_inj hname, hcriteria]

theorem utf8ByteSize_digest_lt (bytes : List UInt8) : (digest bytes).utf8ByteSize < 2 ^ 64 := by
  have hchars := Text.utf8ByteSize_ofList_le ((Blake3.hash bytes).flatMap fun b =>
    [Nat.digitChar (b.toNat / 16), Nat.digitChar (b.toNat % 16)])
  rw [List.length_flatMap] at hchars
  simp only [List.length_cons, List.length_nil, List.map_const', List.sum_replicate_nat,
    Blake3.length_hash] at hchars
  exact Nat.lt_of_le_of_lt hchars (by decide)

/-- The hashed bytes of a requirement determine its checks and the fingerprint of its content
types. -/
theorem requirementBytes_inj {a b : Requirement} (ha : a.Fits) (hb : b.Fits)
    (h : requirementBytes a = requirementBytes b) :
    scope a = scope b ∧ a.checks.map Check.normal = b.checks.map Check.normal := by
  rw [requirementBytes, requirementBytes, List.append_assoc, List.append_assoc] at h
  obtain ⟨hscope, h⟩ := fieldBytes_append (utf8ByteSize_digest_lt _) (utf8ByteSize_digest_lt _) h
  obtain ⟨hlength, h⟩ := countBytes_append ha.checks_length hb.checks_length h
  rw [← List.append_nil (a.checks.flatMap _), ← List.append_nil (b.checks.flatMap _)] at h
  exact ⟨hscope, (flatMap_append checkBytes_append ha.checks hb.checks hlength h).1⟩

/-- Nothing but content types and checks is hashed. -/
theorem requirementBytes_congr {a b : Requirement} (hscope : contentTypes a = contentTypes b)
    (hchecks : a.checks = b.checks) : requirementBytes a = requirementBytes b := by
  have hbytes : scopeBytes a = scopeBytes b := by rw [scopeBytes, scopeBytes, hscope]
  rw [requirementBytes, requirementBytes, scope, scope, hbytes, hchecks]

/-- Requirements with equal fingerprints have the same content types, as far as fingerprints see
them. -/
theorem contentTypes_of_requirement {a b : Requirement} (ha : a.Fits) (hb : b.Fits)
    (hscope : Blake3.Separates (scopeBytes a) (scopeBytes b))
    (hhash : Blake3.Separates (requirementBytes a) (requirementBytes b))
    (h : requirement a = requirement b) : contentTypes a = contentTypes b := by
  have hscopes : scope a = scope b := (requirementBytes_inj ha hb (hhash (Blake3.hex_inj h))).1
  exact scopeBytes_inj ha hb (hscope (Blake3.hex_inj hscopes))

end Fingerprint

end Conformance
