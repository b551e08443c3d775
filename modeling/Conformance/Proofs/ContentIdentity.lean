import Conformance.Proofs.FingerprintContent
import Conformance.Proofs.RuleFileUpdate
import Mathlib.Data.Finset.Dedup

/-! Fingerprints identify content. The content of a requirement is the set of its content types,
trimmed and without blank ones, and its checks in order, without white space around their texts;
that of a rule file is its version and the key, title and content of each requirement in order.
Equal content gives equal fingerprints, and equal fingerprints give equal content unless two of the
byte strings that were hashed for them collide. -/

namespace Conformance

/-- The content types of a requirement as a set: trimmed, without blank ones. -/
def Requirement.contentTypeSet (r : Requirement) : Finset String :=
  ((r.contentTypes.filter (!Text.isBlank ·)).map Text.trim).toFinset

/-- What about a requirement matters to its results. -/
structure Requirement.Content where
  contentTypes : Finset String
  checks : List Check
deriving DecidableEq

def Requirement.content (r : Requirement) : Requirement.Content :=
  { contentTypes := r.contentTypeSet, checks := r.checks.map Check.normal }

/-- What a rule file says of its requirements, up to what does not matter to results. -/
structure RuleFile.Content where
  version : String
  /-- Key, title and content of each requirement. -/
  entries : List (String × String × Requirement.Content)
deriving DecidableEq

def Requirement.entry (r : Requirement) : String × String × Requirement.Content :=
  (r.key, r.title, r.content)

def RuleFile.content (f : RuleFile) : RuleFile.Content :=
  { version := f.version, entries := f.requirements.map Requirement.entry }

@[mk_iff]
structure Requirement.EntryFits (r : Requirement) : Prop where
  key : r.key.utf8ByteSize < 2 ^ 64
  title : r.title.utf8ByteSize < 2 ^ 64
  definition : r.Fits

instance (r : Requirement) : Decidable r.EntryFits :=
  decidable_of_iff' _ (Requirement.entryFits_iff r)

@[mk_iff]
structure RuleFile.Fits (f : RuleFile) : Prop where
  version : f.version.utf8ByteSize < 2 ^ 64
  requirements_length : f.requirements.length < 2 ^ 64
  requirements : ∀ r ∈ f.requirements, r.EntryFits

instance (f : RuleFile) : Decidable f.Fits := decidable_of_iff' _ (RuleFile.fits_iff f)

namespace Fingerprint

/-! ### Collisions -/

/-- Some byte string of the first list and another one of the second have the same hash. -/
def Collision (xs ys : List (List UInt8)) : Prop :=
  ∃ x ∈ xs, ∃ y ∈ ys, x ≠ y ∧ Blake3.hash x = Blake3.hash y

/-- The byte strings hashed for a requirement. -/
def hashedFor (r : Requirement) : List (List UInt8) := [scopeBytes r, requirementBytes r]

/-- The byte strings hashed for a rule file. -/
def hashedForAll (f : RuleFile) : List (List UInt8) :=
  ruleFileBytes f :: f.requirements.flatMap hashedFor

variable {xs xs' ys ys' : List (List UInt8)}

theorem Collision.mono (h : Collision xs ys) (hx : xs ⊆ xs') (hy : ys ⊆ ys') :
    Collision xs' ys' := by
  obtain ⟨x, hxs, y, hys, hne, hhash⟩ := h
  exact ⟨x, hx hxs, y, hy hys, hne, hhash⟩

theorem eq_or_collision {x y : List UInt8} (hx : x ∈ xs) (hy : y ∈ ys)
    (h : digest x = digest y) : x = y ∨ Collision xs ys := by
  by_cases hxy : x = y
  · exact .inl hxy
  · exact .inr ⟨x, hx, y, hy, hxy, Blake3.hex_inj h⟩

/-! ### Equal content, equal fingerprints -/

section Congruence

variable {a b : Requirement}

theorem mem_contentTypeSet {r : Requirement} {t : String} :
    t ∈ r.contentTypeSet ↔ t ∈ contentTypes r := by
  rw [mem_contentTypes, Requirement.contentTypeSet, List.mem_toFinset]
  simp only [List.mem_map, List.mem_filter, Bool.not_eq_true']
  constructor
  · rintro ⟨raw, ⟨hraw, hfilled⟩, rfl⟩
    refine ⟨fun hempty => ?_, raw, hraw, rfl⟩
    rw [Text.trim_eq_empty_iff, hfilled] at hempty
    cases hempty
  · rintro ⟨hne, raw, hraw, rfl⟩
    refine ⟨raw, ⟨hraw, ?_⟩, rfl⟩
    rwa [← Bool.not_eq_true, ← Text.trim_eq_empty_iff]

theorem contentTypeSet_eq_iff : a.contentTypeSet = b.contentTypeSet ↔
    contentTypes a = contentTypes b := by
  constructor
  · intro h
    refine KeyedMap.keys_ext fun t => ?_
    have hmem : t ∈ contentTypes a ↔ t ∈ contentTypes b := by
      rw [← mem_contentTypeSet, h, mem_contentTypeSet]
    exact hmem
  · intro h
    ext t
    rw [mem_contentTypeSet, h, mem_contentTypeSet]

theorem scope_congr (h : a.contentTypeSet = b.contentTypeSet) : scope a = scope b := by
  rw [scope, scope, scopeBytes, scopeBytes, contentTypeSet_eq_iff.mp h]

theorem criterionBytes_normal (p : Criterion) : criterionBytes p.normal = criterionBytes p := by
  simp only [criterionBytes, Criterion.normal, Text.trim_trim]

theorem checkBytes_normal (c : Check) : checkBytes c.normal = checkBytes c := by
  simp only [checkBytes, Check.normal, Text.trim_trim, List.length_map, List.flatMap_map,
    criterionBytes_normal]

theorem checkBytes_congr {c d : Check} (h : c.normal = d.normal) : checkBytes c = checkBytes d := by
  rw [← checkBytes_normal c, h, checkBytes_normal]

/-- Members that look alike have the same bytes, and so do lists of them: the converse of
`flatMap_append`. -/
theorem flatMap_congr {α β : Type} {view : α → β} {encode : α → List UInt8}
    (hview : ∀ x y, view x = view y → encode x = encode y) {xs ys : List α}
    (h : xs.map view = ys.map view) : xs.flatMap encode = ys.flatMap encode := by
  induction xs generalizing ys with
  | nil => rw [List.map_eq_nil_iff.mp h.symm]
  | cons x rest ih =>
    cases ys with
    | nil => cases h
    | cons y rest' =>
      obtain ⟨hhead, htail⟩ := List.cons.inj h
      rw [List.flatMap_cons, List.flatMap_cons, hview x y hhead, ih htail]

theorem requirement_of_checks (hscope : scope a = scope b)
    (hchecks : a.checks.map Check.normal = b.checks.map Check.normal) :
    requirement a = requirement b := by
  have hlength : a.checks.length = b.checks.length := by
    simpa using congrArg List.length hchecks
  have hbytes : a.checks.flatMap checkBytes = b.checks.flatMap checkBytes :=
    flatMap_congr (fun _ _ => checkBytes_congr) hchecks
  rw [requirement, requirement, requirementBytes, requirementBytes, hscope, hlength, hbytes]

theorem requirement_congr (h : a.content = b.content) : requirement a = requirement b := by
  obtain ⟨hset, hchecks⟩ := Requirement.Content.mk.inj h
  exact requirement_of_checks (scope_congr hset) hchecks

theorem entryBytes_congr (h : a.entry = b.entry) : entryBytes a = entryBytes b := by
  simp only [Requirement.entry, Prod.mk.injEq] at h
  obtain ⟨hkey, htitle, hcontent⟩ := h
  rw [entryBytes, entryBytes, hkey, htitle, requirement_congr hcontent]

theorem ruleFile_congr {f g : RuleFile} (h : f.content = g.content) : ruleFile f = ruleFile g := by
  obtain ⟨hversion, hentries⟩ := RuleFile.Content.mk.inj h
  have hlength : f.requirements.length = g.requirements.length := by
    simpa using congrArg List.length hentries
  have hbytes : f.requirements.flatMap entryBytes = g.requirements.flatMap entryBytes :=
    flatMap_congr (fun _ _ => entryBytes_congr) hentries
  rw [ruleFile, ruleFile, ruleFileBytes, ruleFileBytes, hversion, hlength, hbytes]

end Congruence

/-! ### Equal fingerprints, equal content -/

section Identity

variable {a b : Requirement}

theorem contentTypeSet_or_collision (ha : a.Fits) (hb : b.Fits) (h : scope a = scope b) :
    a.contentTypeSet = b.contentTypeSet ∨ Collision [scopeBytes a] [scopeBytes b] := by
  refine (eq_or_collision (List.mem_singleton_self _) (List.mem_singleton_self _) h).imp_left ?_
  intro hbytes
  exact contentTypeSet_eq_iff.mpr (scopeBytes_inj ha hb hbytes)

theorem normal_or_collision {c d : Check} (hc : c.Fits) (hd : d.Fits) (h : check c = check d) :
    c.normal = d.normal ∨ Collision [checkBytes c] [checkBytes d] := by
  refine (eq_or_collision (List.mem_singleton_self _) (List.mem_singleton_self _) h).imp_left ?_
  intro hbytes
  exact (checkBytes_append c d [] [] hc hd (by rw [hbytes])).1

theorem content_or_collision (ha : a.Fits) (hb : b.Fits) (h : requirement a = requirement b) :
    a.content = b.content ∨ Collision (hashedFor a) (hashedFor b) := by
  have hmem : ∀ r, requirementBytes r ∈ hashedFor r := fun r => by simp [hashedFor]
  rcases eq_or_collision (hmem a) (hmem b) h with hbytes | hcollision
  · obtain ⟨hscope, hchecks⟩ := requirementBytes_inj ha hb hbytes
    have hsub : ∀ r, [scopeBytes r] ⊆ hashedFor r := fun r => by simp [hashedFor]
    refine (contentTypeSet_or_collision ha hb hscope).imp (fun hset => ?_) fun hcollision => ?_
    · rw [Requirement.content, Requirement.content, hset, hchecks]
    · exact hcollision.mono (hsub a) (hsub b)
  · exact .inr hcollision

/-- Of a requirement in a rule file the key, the title and the fingerprint can be read back. -/
theorem entryBytes_append (r t : Requirement) (x y : List UInt8) (hr : r.EntryFits)
    (ht : t.EntryFits) (h : entryBytes r ++ x = entryBytes t ++ y) :
    (r.key, r.title, requirement r) = (t.key, t.title, requirement t) ∧ x = y := by
  simp only [entryBytes, List.append_assoc] at h
  obtain ⟨hkey, h⟩ := fieldBytes_append hr.key ht.key h
  obtain ⟨htitle, h⟩ := fieldBytes_append hr.title ht.title h
  obtain ⟨hprint, h⟩ := fieldBytes_append (utf8ByteSize_digest_lt _) (utf8ByteSize_digest_lt _) h
  refine ⟨?_, h⟩
  rw [hkey, htitle]
  exact congrArg (t.key, t.title, ·) hprint

theorem entries_or_collision {rs ts : List Requirement} (hr : ∀ r ∈ rs, r.EntryFits)
    (ht : ∀ t ∈ ts, t.EntryFits)
    (h : rs.map (fun r => (r.key, r.title, requirement r)) =
      ts.map fun t => (t.key, t.title, requirement t)) :
    rs.map Requirement.entry = ts.map Requirement.entry ∨
      Collision (rs.flatMap hashedFor) (ts.flatMap hashedFor) := by
  induction rs generalizing ts with
  | nil =>
    obtain rfl : ts = [] := List.map_eq_nil_iff.mp h.symm
    exact .inl rfl
  | cons r rest ih =>
    cases ts with
    | nil => cases h
    | cons t rest' =>
      rw [List.forall_mem_cons] at hr ht
      simp only [List.map_cons, List.cons.injEq, Prod.mk.injEq] at h
      obtain ⟨⟨hkey, htitle, hprint⟩, hrest⟩ := h
      rw [List.flatMap_cons, List.flatMap_cons]
      -- A collision anywhere is one of the whole; without any, head and tail agree.
      rcases content_or_collision hr.1.definition ht.1.definition hprint with hcontent | hhead
      · refine (ih hr.2 ht.2 hrest).imp (fun htail => ?_) fun htail => ?_
        · rw [List.map_cons, List.map_cons, htail, Requirement.entry, Requirement.entry, hkey,
            htitle, hcontent]
        · exact htail.mono (List.subset_append_right _ _) (List.subset_append_right _ _)
      · exact .inr (hhead.mono (List.subset_append_left _ _) (List.subset_append_left _ _))

theorem ruleFileContent_or_collision {f g : RuleFile} (hf : f.Fits) (hg : g.Fits)
    (h : ruleFile f = ruleFile g) :
    f.content = g.content ∨ Collision (hashedForAll f) (hashedForAll g) := by
  rcases eq_or_collision (List.mem_cons_self) (List.mem_cons_self) h with hbytes | hcollision
  · rw [ruleFileBytes, ruleFileBytes, List.append_assoc, List.append_assoc] at hbytes
    obtain ⟨hversion, hbytes⟩ := fieldBytes_append hf.version hg.version hbytes
    obtain ⟨hlength, hbytes⟩ :=
      countBytes_append hf.requirements_length hg.requirements_length hbytes
    rw [← List.append_nil (f.requirements.flatMap _),
      ← List.append_nil (g.requirements.flatMap _)] at hbytes
    have hviews :=
      (flatMap_append entryBytes_append hf.requirements hg.requirements hlength hbytes).1
    refine (entries_or_collision hf.requirements hg.requirements hviews).imp (fun hentries => ?_)
      fun hcollision => ?_
    · rw [RuleFile.content, RuleFile.content, hversion, hentries]
    · exact hcollision.mono (List.subset_cons_self _ _) (List.subset_cons_self _ _)
  · exact .inr hcollision

end Identity

/-- A fingerprint stands for a content: equal content gives equal fingerprints, and for values that
fit into memory equal fingerprints give equal content, unless two of the byte strings hashed for
them collide. -/
structure Identifies {α β : Type} (fingerprint : α → String) (content : α → β)
    (hashed : α → List (List UInt8)) (fits : α → Prop) : Prop where
  of_content : ∀ a b, content a = content b → fingerprint a = fingerprint b
  content_of : ∀ a b, fits a → fits b → fingerprint a = fingerprint b →
    content a = content b ∨ Collision (hashed a) (hashed b)

/-- Each of the four fingerprints stands for a content: that of the content types for the set of them,
that of a check for its texts and criteria without white space around them, that of a requirement
for both, and that of a rule file for its version with the key, title and content of each requirement
in order. -/
theorem fingerprints_identify_content :
    Identifies scope Requirement.contentTypeSet (fun r => [scopeBytes r]) Requirement.Fits ∧
    Identifies check Check.normal (fun c => [checkBytes c]) Check.Fits ∧
    Identifies requirement Requirement.content hashedFor Requirement.Fits ∧
    Identifies ruleFile RuleFile.content hashedForAll RuleFile.Fits := by
  refine ⟨⟨fun _ _ => scope_congr, fun _ _ => contentTypeSet_or_collision⟩, ⟨fun c d h => ?_,
    fun _ _ => normal_or_collision⟩, ⟨fun _ _ => requirement_congr,
    fun _ _ => content_or_collision⟩, ⟨fun _ _ => ruleFile_congr,
    fun _ _ => ruleFileContent_or_collision⟩⟩
  rw [check, check, checkBytes_congr h]

end Fingerprint

namespace Specimen

/-- The first rule file again, written with white space and with a content type repeated. -/
def untidy : RuleFile :=
  { first with
    requirements :=
      [{ kept with
          contentTypes := [" image", "image", " "]
          checks := [{ images with condition := "There are images\n" }] }, gone] }

theorem untidy_identified : first.Fits ∧ untidy.Fits ∧ second.Fits ∧
    first.content = untidy.content ∧ Fingerprint.ruleFile first = Fingerprint.ruleFile untidy ∧
    first.content ≠ second.content ∧
    (Fingerprint.ruleFile first = Fingerprint.ruleFile second →
      Fingerprint.Collision (Fingerprint.hashedForAll first) (Fingerprint.hashedForAll second)) := by
  have hfirst : first.Fits := by decide
  have hsecond : second.Fits := by decide
  have hsame : first.content = untidy.content := by decide
  have hother : first.content ≠ second.content := by decide
  obtain ⟨-, -, -, hfile⟩ := Fingerprint.fingerprints_identify_content
  refine ⟨hfirst, by decide, hsecond, hsame, hfile.of_content _ _ hsame, hother, fun hequal => ?_⟩
  exact (hfile.content_of _ _ hfirst hsecond hequal).resolve_left hother

end Specimen

end Conformance
