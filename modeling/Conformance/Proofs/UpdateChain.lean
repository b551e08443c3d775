import Conformance.Proofs.RuleFileUpdate
import Mathlib.Algebra.BigOperators.Group.List.Basic
import Mathlib.Algebra.Ring.Nat
import Mathlib.Data.List.FinRange

/-! Rule-file updates one after another, each with the report made just before it. A result survives
as long as every file defines its key, keeps everything but its review flag, and is flagged by any
change of its requirement on the way, even one that is taken back. Every lost result leaves one
tombstone, at the step that lost it. -/

namespace Conformance

namespace Audit

/-- An update with the report that the analysis gives now. -/
def update (a : Audit) (new : RuleFile) : Except AuditError Audit :=
  a.applyRuleFile new (a.changeReport new)

def updateAll (a : Audit) (files : List RuleFile) : Except AuditError Audit :=
  files.foldlM update a

theorem updateAll_eq {a : Audit} {files : List RuleFile} (h : ∀ f ∈ files, f.validate = .ok ()) :
    a.updateAll files = .ok (files.foldl reconcile a) := by
  induction files generalizing a with
  | nil => rfl
  | cons new rest ih =>
    have hnew : a.update new = .ok (a.reconcile new) :=
      applyRuleFile_changeReport (h new List.mem_cons_self)
    rw [updateAll, List.foldlM_cons, hnew]
    exact ih fun f hf => h f (List.mem_cons_of_mem _ hf)

end Audit

/-! ### One result -/

/-- What a chain of updates makes of a result. -/
def fate (old : RuleFile) : List RuleFile → String → RequirementResult → Option RequirementResult
  | [], _, x => some x
  | new :: rest, key, x => ((disposition old new key).apply x).bind (fate new rest key)

/-- Some file of the chain gives results under `key` another meaning than the file before it. -/
def RuleFile.UnsettledBy (old : RuleFile) : List RuleFile → String → Prop
  | [], _ => False
  | new :: rest, key => old.Unsettles new key ∨ new.UnsettledBy rest key

section Fate

variable (old : RuleFile) {files : List RuleFile} {key : String}

theorem fate_of_lost (h : ∃ f ∈ files, ¬f.contains key = true) (x : RequirementResult) :
    fate old files key x = none := by
  induction files generalizing old x with
  | nil => simp at h
  | cons new rest ih =>
    rw [fate]
    cases hnext : (disposition old new key).apply x with
    | none => rfl
    | some y =>
      have hnew : new.contains key = true := by
        rw [← Disposition.isSome_apply old new key x, hnext, Option.isSome_some]
      obtain ⟨f, hf, hlost⟩ := h
      rcases List.mem_cons.mp hf with rfl | hf
      · exact absurd hnew hlost
      · exact ih new ⟨f, hf, hlost⟩ y

/-- A result that no file of the chain loses keeps everything but its review flag. -/
theorem fate_of_kept (h : ∀ f ∈ files, f.contains key = true) (x : RequirementResult) :
    ∃ b, fate old files key x = some { x with needsReview := b } ∧
      (b = true ↔ x.needsReview = true ∨ old.UnsettledBy files key) := by
  induction files generalizing old x with
  | nil => exact ⟨x.needsReview, rfl, by simp [RuleFile.UnsettledBy]⟩
  | cons new rest ih =>
    have hnew := h new List.mem_cons_self
    have hrest : ∀ f ∈ rest, f.contains key = true := fun f hf => h f (List.mem_cons_of_mem _ hf)
    rw [fate, RuleFile.UnsettledBy]
    -- The rest of the chain starts from the new file and from the flag of this step.
    by_cases hu : old.Unsettles new key
    · rw [disposition_of_unsettles hu]
      obtain ⟨b, hb, hflag⟩ := ih new hrest x.flagged
      refine ⟨b, hb, ?_⟩
      simp [hflag, hu, RequirementResult.flagged_eq]
    · rw [disposition_of_not_unsettles hnew hu]
      obtain ⟨b, hb, hflag⟩ := ih new hrest x
      exact ⟨b, hb, by simp [hflag, hu]⟩

/-- What is known of a result that is there after the chain. -/
theorem kept_of_fate {x y : RequirementResult} (h : fate old files key x = some y) :
    (∀ f ∈ files, f.contains key = true) ∧ y = { x with needsReview := y.needsReview } ∧
      (y.needsReview = true ↔ x.needsReview = true ∨ old.UnsettledBy files key) := by
  have hall : ∀ f ∈ files, f.contains key = true := by
    intro f hf
    by_contra hlost
    rw [fate_of_lost old ⟨f, hf, hlost⟩] at h
    cases h
  obtain ⟨b, hb, hflag⟩ := fate_of_kept old hall x
  rw [hb] at h
  obtain rfl := Option.some.inj h
  exact ⟨hall, rfl, hflag⟩

/-- Where no file of the chain lacks the key, its results are unsettled by coming back under a key
that the first file lacks, or by a definition that differs from the one before. -/
theorem RuleFile.unsettledBy_iff (h : ∀ f ∈ files, f.contains key = true) :
    old.UnsettledBy files key ↔ (files ≠ [] ∧ ¬old.contains key = true) ∨
      ∃ (i : Nat) (before after : RuleFile), (old :: files)[i]? = some before ∧
        (old :: files)[i + 1]? = some after ∧ before.Redefines after key := by
  induction files generalizing old with
  | nil => simp [UnsettledBy]
  | cons new rest ih =>
    have hnew := h new List.mem_cons_self
    have ih := ih new fun f hf => h f (List.mem_cons_of_mem _ hf)
    rw [UnsettledBy, ih]
    constructor
    · rintro (⟨-, hu⟩ | ⟨-, habsent⟩ | ⟨i, before, after, hi, hi', hdef⟩)
      · by_cases hold : old.contains key = true
        · exact .inr ⟨0, old, new, rfl, rfl, hu hold⟩
        · exact .inl ⟨List.cons_ne_nil _ _, hold⟩
      · exact absurd hnew habsent
      · exact .inr ⟨i + 1, before, after, hi, hi', hdef⟩
    · rintro (⟨-, hold⟩ | ⟨i, before, after, hi, hi', hdef⟩)
      · exact .inl ⟨hnew, fun hc => absurd hc hold⟩
      · cases i with
        | zero =>
          obtain rfl : old = before := Option.some.inj hi
          obtain rfl : new = after := Option.some.inj hi'
          exact .inl hdef.unsettles
        | succ i => exact .inr (.inr ⟨i, before, after, hi, hi', hdef⟩)

end Fate

/-! ### All samples -/

/-- The sample without its results: what no update touches. -/
def Sample.withoutResults (s : Sample) : Sample := { s with results := ∅ }

/-- The tombstones that step `i` of a chain of updates leaves for a sample: one for each stored key
that every earlier file of the chain defines and file `i` does not. -/
def Sample.tombstonesAt (first : RuleFile) (files : List RuleFile) (s : Sample)
    (i : Fin files.length) : List Tombstone :=
  (s.results.keys.filter fun key =>
    (files.take i).all (·.contains key) && !files[i].contains key).map fun key =>
      { sampleId := s.id, requirementKey := key, title := (first :: files)[i.val].titleOf key,
        ruleFileVersion := files[i].version }

namespace Audit

variable {a : Audit}

def resultCount (a : Audit) : Nat := (a.samples.map (·.results.keys.length)).sum

theorem samples_foldl_reconcile (files : List RuleFile) :
    (files.foldl reconcile a).samples = a.samples.map fun s =>
      { s with results := s.results.filterMap (fate a.ruleFile files) } := by
  induction files generalizing a with
  | nil =>
    have hself : ∀ s : Sample, s.results.filterMap (fate a.ruleFile []) = s.results := fun s =>
      KeyedMap.filterMap_eq_self fun _ _ _ => rfl
    simp [hself]
  | cons new rest ih =>
    rw [List.foldl_cons, ih]
    simp only [reconcile, List.map_map]
    refine List.map_congr_left fun s _ => ?_
    simp only [Function.comp_apply, Sample.reconcile, KeyedMap.filterMap_filterMap]
    rfl

/-- The results at a position after the chain, from those before. -/
theorem result?_foldl_reconcile {files : List RuleFile} {i : Nat} {s t : Sample}
    (hs : a.samples[i]? = some s) (ht : (files.foldl reconcile a).samples[i]? = some t)
    (key : String) : t.result? key = (s.result? key).bind (fate a.ruleFile files key) := by
  simp only [samples_foldl_reconcile, List.getElem?_map, hs, Option.map_some,
    Option.some.injEq] at ht
  rw [← ht]
  exact KeyedMap.get?_filterMap s.results _ key

theorem tombstonesAt_succ (old new : RuleFile) (rest : List RuleFile) (s : Sample)
    (i : Fin rest.length) :
    s.tombstonesAt old (new :: rest) i.succ = (s.reconcile old new).tombstonesAt new rest i := by
  simp only [Sample.tombstonesAt, Sample.keys_reconcile, List.filter_filter]
  have hfilter : (fun key => ((new :: rest).take i.succ).all (·.contains key) &&
      !(new :: rest)[i.succ].contains key) =
      fun key => (rest.take i).all (·.contains key) && !rest[i].contains key &&
        new.contains key := by
    funext key
    simp [Bool.and_assoc, Bool.and_comm]
  rw [hfilter]
  rfl

theorem tombstones_foldl_reconcile (files : List RuleFile) :
    (files.foldl reconcile a).tombstones = a.tombstones ++
      (List.finRange files.length).flatMap fun i =>
        a.samples.flatMap fun s => s.tombstonesAt a.ruleFile files i := by
  induction files generalizing a with
  | nil => simp
  | cons new rest ih =>
    have hfirst : ∀ s : Sample, s.tombstonesAt a.ruleFile (new :: rest) 0 =
        s.tombstones a.ruleFile new := by
      intro s
      rw [Sample.tombstones_eq]
      rfl
    have hsteps : List.finRange (new :: rest).length = 0 :: (List.finRange rest.length).map .succ :=
      List.finRange_succ
    rw [List.foldl_cons, ih, hsteps, List.flatMap_cons, List.flatMap_map]
    simp only [hfirst, tombstonesAt_succ, reconcile, List.flatMap_map, List.append_assoc]

/-- An update turns results into tombstones one by one. -/
theorem resultCount_reconcile (new : RuleFile) :
    (a.reconcile new).resultCount + (a.reconcile new).tombstones.length =
      a.resultCount + a.tombstones.length := by
  have hsample : ∀ s : Sample, (s.reconcile a.ruleFile new).results.keys.length +
      (s.tombstones a.ruleFile new).length = s.results.keys.length := by
    intro s
    rw [Sample.keys_reconcile, Sample.tombstones_eq, List.length_map,
      ← List.length_eq_length_filter_add]
  have hsum : a.resultCount = (a.reconcile new).resultCount +
      (a.samples.map fun s => (s.tombstones a.ruleFile new).length).sum := by
    simp only [resultCount, reconcile, List.map_map, Function.comp_def, ← List.sum_map_add, hsample]
  simp only [hsum, reconcile, List.length_append, List.length_flatMap]
  omega

theorem resultCount_foldl_reconcile (files : List RuleFile) :
    (files.foldl reconcile a).resultCount + (files.foldl reconcile a).tombstones.length =
      a.resultCount + a.tombstones.length := by
  induction files generalizing a with
  | nil => rfl
  | cons new rest ih => rw [List.foldl_cons, ih, resultCount_reconcile]

end Audit

/-! ### The outcome of a chain -/

/-- What becomes of an audit in a chain of updates through `files`. -/
structure ChainOutcome (before : Audit) (files : List RuleFile) (after : Audit) : Prop where
  /-- Samples keep their number, order and everything but their results. -/
  samples : after.samples.map Sample.withoutResults = before.samples.map Sample.withoutResults
  no_new_keys : ∀ (i : Nat) (s t : Sample), before.samples[i]? = some s →
    after.samples[i]? = some t → ∀ key ∈ t.results.keys, key ∈ s.results.keys
  kept_iff : ∀ (i : Nat) (s t : Sample), before.samples[i]? = some s →
    after.samples[i]? = some t → ∀ key ∈ s.results.keys,
      (key ∈ t.results.keys ↔ ∀ f ∈ files, key ∈ f.keys)
  kept_eq : ∀ (i : Nat) (s t : Sample), before.samples[i]? = some s →
    after.samples[i]? = some t → ∀ key x y, s.result? key = some x → t.result? key = some y →
      y = { x with needsReview := y.needsReview }
  needsReview_iff : ∀ (i : Nat) (s t : Sample), before.samples[i]? = some s →
    after.samples[i]? = some t → ∀ key x y, s.result? key = some x → t.result? key = some y →
      (y.needsReview = true ↔ x.needsReview = true ∨
        (files ≠ [] ∧ key ∉ before.ruleFile.keys) ∨
        ∃ (j : Nat) (f g : RuleFile), (before.ruleFile :: files)[j]? = some f ∧
          (before.ruleFile :: files)[j + 1]? = some g ∧ f.Redefines g key)
  /-- Tombstones by step, then by sample, then by key. -/
  tombstones : after.tombstones = before.tombstones ++
    (List.finRange files.length).flatMap fun j =>
      before.samples.flatMap fun s => s.tombstonesAt before.ruleFile files j
  /-- As many new tombstones as lost results. -/
  accounted : after.resultCount + after.tombstones.length =
    before.resultCount + before.tombstones.length

/-- A chain of updates to valid files runs through, and the two ends of it determine the results
between them, up to review flags that record every change on the way. -/
theorem Audit.updateAll_outcome (a : Audit) (files : List RuleFile)
    (hvalid : ∀ f ∈ files, f.validate = .ok ()) :
    ∃ final, a.updateAll files = .ok final ∧ ChainOutcome a files final := by
  refine ⟨files.foldl reconcile a, updateAll_eq hvalid, ?_⟩
  constructor
  case samples =>
    rw [samples_foldl_reconcile, List.map_map]
    rfl
  case no_new_keys =>
    intro i s t hs ht key hkey
    rw [Sample.mem_keys_iff] at hkey ⊢
    rw [result?_foldl_reconcile hs ht key] at hkey
    exact Option.isSome_of_isSome_bind hkey
  case kept_iff =>
    intro i s t hs ht key hkey
    obtain ⟨x, hget⟩ := Option.isSome_iff_exists.mp (Sample.mem_keys_iff.mp hkey)
    rw [Sample.mem_keys_iff, result?_foldl_reconcile hs ht key, hget, Option.bind_some]
    simp only [← RuleFile.contains_iff]
    constructor
    · intro hsome
      obtain ⟨y, hy⟩ := Option.isSome_iff_exists.mp hsome
      exact (kept_of_fate a.ruleFile hy).1
    · intro hall
      obtain ⟨b, hb, -⟩ := fate_of_kept a.ruleFile hall x
      rw [hb]
      rfl
  case kept_eq =>
    intro i s t hs ht key x y hx hy
    rw [result?_foldl_reconcile hs ht key, hx, Option.bind_some] at hy
    exact (kept_of_fate a.ruleFile hy).2.1
  case needsReview_iff =>
    intro i s t hs ht key x y hx hy
    rw [result?_foldl_reconcile hs ht key, hx, Option.bind_some] at hy
    obtain ⟨hall, -, hflag⟩ := kept_of_fate a.ruleFile hy
    rw [hflag, RuleFile.unsettledBy_iff a.ruleFile hall, RuleFile.contains_iff]
  case tombstones => exact tombstones_foldl_reconcile files
  case accounted => exact resultCount_foldl_reconcile files

/-- To the second rule file of the specimen and back to the first. -/
theorem Specimen.there_and_back : (∀ f ∈ [second, first], f.validate = .ok ()) ∧
    ∃ final, audit.updateAll [second, first] = .ok final ∧
      ChainOutcome audit [second, first] final := by
  have hvalid : ∀ f ∈ [second, first], f.validate = .ok () := by
    simp only [List.forall_mem_cons]
    exact ⟨by decide, by decide, List.forall_mem_nil _⟩
  exact ⟨hvalid, Audit.updateAll_outcome audit _ hvalid⟩

end Conformance
