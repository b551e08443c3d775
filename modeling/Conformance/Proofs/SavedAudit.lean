import Conformance.Proofs.SavedRuleFile
import Conformance.Proofs.TimestampText
import Conformance.Proofs.UniqueKeys

/-! Loading undoes saving, for audits. Nothing that was recorded changes or is lost between two
sittings, provided that no id is blank, no requirement key repeats, and the times are of years with
four digits. -/

namespace Conformance

@[mk_iff] structure Sample.Canonical (s : Sample) : Prop where
  id : Text.isBlank s.id = false
  selectedContentTypes : Text.NoneBlank s.selectedContentTypes
  times : ∀ x ∈ s.results.values, ∀ t ∈ x.lastStatusUpdate, 0 ≤ t.date.year ∧ t.date.year ≤ 9999

@[mk_iff] structure Audit.Canonical (a : Audit) : Prop where
  ruleFile : a.ruleFile.Canonical
  samples : ∀ s ∈ a.samples, s.Canonical

instance (s : Sample) : Decidable s.Canonical := decidable_of_iff' _ s.canonical_iff

instance (a : Audit) : Decidable a.Canonical := decidable_of_iff' _ a.canonical_iff

/-- The result without its time, if that is one that cannot be read back. -/
def RequirementResult.reread (x : RequirementResult) : RequirementResult :=
  { x with
    lastStatusUpdate := x.lastStatusUpdate.filter fun t =>
      0 ≤ t.date.year ∧ t.date.year ≤ 9999 }

/-- The sample without the times that cannot be read back. -/
def Sample.reread (s : Sample) : Sample :=
  { s with results := s.results.filterMap fun _ x => some x.reread }

theorem RequirementResult.reread_eq_self {x : RequirementResult}
    (h : ∀ t ∈ x.lastStatusUpdate, 0 ≤ t.date.year ∧ t.date.year ≤ 9999) : x.reread = x := by
  rw [reread]
  cases htime : x.lastStatusUpdate with
  | none => rw [Option.filter_none, ← htime]
  | some t => rw [Option.filter_some, if_pos (decide_eq_true (h t htime)), ← htime]

theorem Sample.reread_eq_self {s : Sample} (h : ∀ x ∈ s.results.values, ∀ t ∈ x.lastStatusUpdate,
    0 ≤ t.date.year ∧ t.date.year ≤ 9999) : s.reread = s := by
  have hresults : s.results.filterMap (fun _ x => some x.reread) = s.results := by
    refine KeyedMap.filterMap_eq_self fun key x hx => congrArg some ?_
    have hmem : x ∈ s.results.values := List.mem_map_of_mem (KeyedMap.mem_entries_iff.mpr hx)
    exact RequirementResult.reread_eq_self (h x hmem)
  rw [reread, hresults]

namespace Loading

/-! ### Results -/

section Statuses

variable {o : Members}

theorem status_of_lookup {s : Status} (h : o.lookup "status" = some (.text (Named.name s))) :
    status o = s := by
  rw [status, wordMember, h]
  cases s <;> rfl

theorem checkMark_of_lookup {m : CheckMark}
    (h : o.lookup "overallStatus" = some (.text (Named.name m))) : checkMark o = m := by
  rw [checkMark, wordMember, h]
  cases m <;> rfl

theorem criterionStatus_of_lookup {s : CriterionStatus}
    (h : o.lookup "status" = some (.text (Named.name s))) : criterionStatus o = s := by
  rw [criterionStatus, wordMember, h]
  cases s <;> rfl

end Statuses

theorem readMap_toJson_map {α : Type} [JsonForm α] {read : Members → α} {f : α → α}
    {m : KeyedMap α} (h : ∀ a ∈ m.values, ∃ o, toJson a = .object o ∧ read o = f a) :
    readMap read (some (toJson m)) = m.filterMap fun _ a => some (f a) := by
  have hentry : ∀ e ∈ m.entries, ∃ o, toJson e.2 = .object o ∧ read o = f e.2 :=
    fun e he => h e.2 (List.mem_map_of_mem he)
  have hentries : (objectEntries (some (toJson m))).map (fun e => (e.1, read e.2)) =
      (m.filterMap fun _ a => some (f a)).entries := by
    rw [objectEntries.eq_def]
    simp only [toJson, List.filterMap_map, List.map_filterMap, KeyedMap.filterMap]
    refine List.filterMap_congr fun e he => ?_
    obtain ⟨o, hwritten, hread⟩ := hentry e he
    simp [hwritten, hread]
  exact (congrArg KeyedMap.ofList hentries).trans (KeyedMap.ofList_entries _)

theorem readMap_toJson {α : Type} [JsonForm α] {read : Members → α} {m : KeyedMap α}
    (h : ∀ a ∈ m.values, ∃ o, toJson a = .object o ∧ read o = a) :
    readMap read (some (toJson m)) = m :=
  (readMap_toJson_map h).trans (KeyedMap.filterMap_eq_self fun _ _ _ => rfl)

theorem criterionResult_toJson (x : CriterionResult) :
    ∃ o, toJson x = .object o ∧ criterionResult o = x := by
  refine ⟨_, rfl, ?_⟩
  rw [criterionResult, criterionStatus_of_lookup rfl]
  rfl

theorem checkResult_toJson (x : CheckResult) :
    ∃ o, toJson x = .object o ∧ checkResult o = x := by
  refine ⟨[("overallStatus", toJson x.mark), ("passCriteria", toJson x.criteria)], rfl, ?_⟩
  have hcriteria := readMap_toJson fun y (_ : y ∈ x.criteria.values) => criterionResult_toJson y
  rw [checkResult, checkMark_of_lookup rfl]
  exact congrArg (CheckResult.mk x.mark) hcriteria

theorem lastStatusUpdate_of_lookup {o : Members} {time : Option Timestamp}
    (h : o.lookup "lastStatusUpdate" = some (toJson time)) :
    Timestamp.ofStrict? (wordMember o "lastStatusUpdate") =
      time.filter fun t => 0 ≤ t.date.year ∧ t.date.year ≤ 9999 := by
  rw [wordMember, h]
  cases time with
  | none => rfl
  | some t =>
    rw [Option.filter_some]
    by_cases hyear : 0 ≤ t.date.year ∧ t.date.year ≤ 9999
    · rw [if_pos (decide_eq_true hyear)]
      exact Timestamp.ofStrict?_text hyear
    · rw [if_neg (by simpa using hyear)]
      exact Timestamp.ofStrict?_text_of_signed hyear

theorem requirementResult_toJson (x : RequirementResult) :
    ∃ o, toJson x = .object o ∧ requirementResult o = x.reread := by
  refine ⟨_, rfl, ?_⟩
  have hchecks := readMap_toJson fun y (_ : y ∈ x.checks.values) => checkResult_toJson y
  rw [requirementResult, status_of_lookup rfl, lastStatusUpdate_of_lookup rfl]
  exact congrArg (RequirementResult.mk x.status x.needsReview x.observation x.commentToAuditor
    x.commentToActor _) hchecks

/-! ### Samples and audits -/

theorem sample_toJson {s : Sample} (h : Text.NoneBlank s.selectedContentTypes) :
    sample (toJson s) = s.reread := by
  have hresults : readMap requirementResult (some (toJson s.results)) = s.reread.results :=
    readMap_toJson_map fun x _ => requirementResult_toJson x
  calc sample (toJson s)
      = { s with
          selectedContentTypes := idList (some (toJson s.selectedContentTypes))
          results := readMap requirementResult (some (toJson s.results)) } := rfl
    _ = s.reread := by rw [idList_toJson h, hresults, Sample.reread]

theorem sampleAt_toJson {s : Sample} (hid : Text.isBlank s.id = false)
    (hselected : Text.NoneBlank s.selectedContentTypes) (index : Nat) :
    sampleAt index (toJson s) = s.reread := by
  rw [sampleAt, sample_toJson hselected]
  exact if_neg (Bool.eq_false_iff.mp hid)

theorem samples_toJson {ss : List Sample}
    (h : ∀ s ∈ ss, Text.isBlank s.id = false ∧ Text.NoneBlank s.selectedContentTypes) :
    samples (some (toJson ss)) = ss.map Sample.reread := by
  have hread : ∀ x ∈ ss.zipIdx, sampleAt x.2 (toJson x.1) = x.1.reread := fun x hx =>
    have hs := h x.1 (List.fst_mem_of_mem_zipIdx hx)
    sampleAt_toJson hs.1 hs.2 x.2
  calc samples (some (toJson ss))
      = ss.zipIdx.map fun x => sampleAt x.2 (toJson x.1) := by
        rw [samples.eq_def]
        simp only [toJson, List.zipIdx_map, List.map_map]
        rfl
    _ = ss.zipIdx.map fun x => x.1.reread := List.map_congr_left hread
    _ = (ss.zipIdx.map Prod.fst).map Sample.reread := by rw [List.map_map]; rfl
    _ = ss.map Sample.reread := by rw [List.zipIdx_map_fst]

theorem tombstones_toJson (ts : List Tombstone) : tombstones (some (toJson ts)) = ts := by
  have hread : ∀ t ∈ ts, ofJson? (toJson t) = some t := fun _ _ => rfl
  have hall : (ts.map toJson).filterMap ofJson? = ts := by
    rw [List.filterMap_map]
    exact (List.filterMap_congr hread).trans List.filterMap_some
  exact hall

/-- Loading undoes saving. -/
theorem audit_toJson {a : Audit} (h : a.Canonical) : audit (toJson a) = .ok a := by
  have hfile : decodeAuditRuleFile (toJson a) = .ok a.ruleFile := decodeRuleFile_toJson h.ruleFile
  have hsamples : samples ((toJson a).member? "samples") = a.samples := by
    have hread : a.samples.map Sample.reread = a.samples :=
      (List.map_congr_left fun s hs => Sample.reread_eq_self (h.samples s hs).times).trans
        (List.map_id' _)
    exact (samples_toJson fun s hs =>
      ⟨(h.samples s hs).id, (h.samples s hs).selectedContentTypes⟩).trans hread
  have htombstones : tombstones ((toJson a).member? "tombstones") = a.tombstones :=
    tombstones_toJson a.tombstones
  rw [audit, hfile, hsamples, htombstones]
  exact congrArg (fun f => Except.ok (Audit.mk f a.samples a.tombstones))
    (RuleFile.makeKeysUnique_eq_self h.ruleFile.keys_nodup)

end Loading

namespace Specimen

/-- An audit with something in every part, among it a leap second. -/
def saved : Audit where
  ruleFile :=
    { metadata :=
        { title := "Rules", version := "1", language := "en"
          contentTypes := [⟨"image", "Images"⟩]
          sampleCategories := [{ id := "web", sampleTypes := [⟨"page", "Page"⟩] }]
          blockOrders := .ofList [("report", ["why", "how"])] }
      requirements :=
        [{ key := "1.1", id := "A.1", title := "Images", contentTypes := ["image"]
           checks := [{ id := "images", logic := .any, criteria := [{ id := "alt" }] }]
           infoBlocks := .ofList [("how", "Look"), ("why", "So that all can read")]
           metadata := .object [("level", .number (.integer 1)), ("tags", .array [.null])] }] }
  samples :=
    [{ id := "home", selectedContentTypes := ["image"]
       results := .ofList [("1.1",
        { status := .failed, needsReview := true
          lastStatusUpdate := some leapSecond
          checks := .ofList [("images", { mark := .passed, criteria := .ofList [
            ("alt", { status := .failed, stuckText := "Which?" })] })] })] }]
  tombstones := [⟨"home", "1.2", "Gone", "0"⟩]

theorem load_saved : saved.Canonical ∧ Loading.audit (toJson saved) = .ok saved := by
  have hcanonical : saved.Canonical := by decide
  exact ⟨hcanonical, Loading.audit_toJson hcanonical⟩

end Specimen

end Conformance
