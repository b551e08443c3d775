import Conformance.Loading.RuleFile
import Conformance.Proofs.KeyedMap
import Conformance.RuleFile.Form
import Mathlib.Tactic.MkIffOfInductiveProp

/-! Loading undoes saving, for rule files. The writer gives every member its present name and shape.
The reader knows other names and shapes, and fills in or drops what is blank, so it takes back
exactly what was written where nothing is blank that counts. -/

namespace Conformance

/-- No text of the list is blank. -/
def Text.NoneBlank (texts : List String) : Prop := ∀ s ∈ texts, isBlank s = false

instance (texts : List String) : Decidable (Text.NoneBlank texts) :=
  inferInstanceAs (Decidable (∀ s ∈ texts, Text.isBlank s = false))

@[mk_iff] structure SampleCategory.Canonical (c : SampleCategory) : Prop where
  id : Text.isBlank c.id = false
  sampleTypes : Text.NoneBlank (c.sampleTypes.map (·.id))

@[mk_iff] structure RuleFileMetadata.Canonical (m : RuleFileMetadata) : Prop where
  contentTypes : Text.NoneBlank (m.contentTypes.map (·.id))
  sampleCategories : ∀ c ∈ m.sampleCategories, c.Canonical
  blockOrders : ∀ order ∈ m.blockOrders.values, Text.NoneBlank order

@[mk_iff] structure Check.Canonical (c : Check) : Prop where
  id : Text.isBlank c.id = false
  criteria : Text.NoneBlank (c.criteria.map (·.id))

@[mk_iff] structure Requirement.Canonical (r : Requirement) : Prop where
  key : Text.isBlank r.key = false
  contentTypes : Text.NoneBlank r.contentTypes
  checks : ∀ c ∈ r.checks, c.Canonical

@[mk_iff] structure RuleFile.Canonical (f : RuleFile) : Prop where
  metadata : f.metadata.Canonical
  requirements : ∀ r ∈ f.requirements, r.Canonical
  keys_nodup : f.keys.Nodup

instance (c : SampleCategory) : Decidable c.Canonical := decidable_of_iff' _ c.canonical_iff

instance (m : RuleFileMetadata) : Decidable m.Canonical := decidable_of_iff' _ m.canonical_iff

instance (c : Check) : Decidable c.Canonical := decidable_of_iff' _ c.canonical_iff

instance (r : Requirement) : Decidable r.Canonical := decidable_of_iff' _ r.canonical_iff

instance (f : RuleFile) : Decidable f.Canonical := decidable_of_iff' _ f.canonical_iff

theorem Logic.ofText?_name (l : Logic) : ofText? (Named.name l) = some l := by
  cases l <;> decide

namespace Loading

/-! ### Members and collections -/

theorem filledMember?_of_lookup {o : Members} {name s : String}
    (h : o.lookup name = some (.text s)) (hs : Text.isBlank s = false) :
    filledMember? o name = some s := by
  simp [filledMember?, h, asText?, Option.filter_some, hs]

theorem entryId_of_lookup {o : Members} {id : String} (h : o.lookup "id" = some (.text id))
    (hid : Text.isBlank id = false) (name : Option String) (index : Nat) :
    entryId o name index = id := by
  rw [entryId, filledMember?_of_lookup h hid]
  rfl

theorem requirementKey_of_lookup {o : Members} {key : String}
    (h : o.lookup "key" = some (.text key)) (hkey : Text.isBlank key = false)
    (name : Option String) (index : Nat) : requirementKey o name index = key := by
  rw [requirementKey, filledMember?_of_lookup h hkey]
  rfl

theorem idList_toJson {ids : List String} (h : Text.NoneBlank ids) :
    idList (some (toJson ids)) = ids := by
  have htexts : (ids.map toJson).filterMap asText? = ids := by
    rw [List.filterMap_map]
    exact List.filterMap_some
  have hkept : ids.filter (!Text.isBlank ·) = ids := by
    rw [List.filter_eq_self]
    intro id hid
    rw [h id hid]
    rfl
  exact (congrArg _ htexts).trans hkept

section Collections

variable {α : Type} [JsonForm α] {as : List α}

theorem entries_toJson (as : List α) :
    entries (some (toJson as)) = as.map fun a => (none, toJson a) :=
  List.map_map

theorem filterMap_entries_toJson {read : Option String → Json → Option α}
    (h : ∀ a ∈ as, read none (toJson a) = some a) :
    (entries (some (toJson as))).filterMap (fun x => read x.1 x.2) = as := by
  rw [entries_toJson, List.filterMap_map]
  exact (List.filterMap_congr h).trans List.filterMap_some

/-- An array that is read entry by entry keeps its order. -/
theorem readEntries_toJson {read : Nat → Option String → Json → Option α}
    (h : ∀ a ∈ as, ∀ index, read index none (toJson a) = some a) :
    readEntries read (some (toJson as)) = as := by
  have hread : ∀ x ∈ as.zipIdx, read x.2 none (toJson x.1) = some x.1 :=
    fun x hx => h x.1 (List.fst_mem_of_mem_zipIdx hx) x.2
  calc readEntries read (some (toJson as))
      = as.zipIdx.filterMap fun x => read x.2 none (toJson x.1) := by
        rw [readEntries, entries_toJson, List.zipIdx_map, List.filterMap_map]
        rfl
    _ = as.zipIdx.filterMap fun x => some x.1 := List.filterMap_congr hread
    _ = as := by rw [List.filterMap_eq_map', List.zipIdx_map_fst]

end Collections

/-! ### Metadata -/

theorem term?_toJson {t : Term} (h : Text.isBlank t.id = false) :
    term? none (toJson t) = some t := by
  have hwritten : toJson t = .object [("id", .text t.id), ("name", .text t.name)] := rfl
  rw [hwritten, term?, filledMember?_of_lookup rfl h]
  rfl

theorem terms_toJson {ts : List Term} (h : Text.NoneBlank (ts.map (·.id))) :
    terms (some (toJson ts)) = ts :=
  filterMap_entries_toJson fun _ ht => term?_toJson (h _ (List.mem_map_of_mem ht))

theorem category?_toJson {c : SampleCategory} (h : c.Canonical) :
    category? none (toJson c) = some c := by
  have hwritten : toJson c = .object [("id", .text c.id), ("name", .text c.name),
      ("sampleTypes", toJson c.sampleTypes)] := rfl
  rw [hwritten, category?, term?, filledMember?_of_lookup rfl h.id]
  calc _ = some { c with sampleTypes := terms (some (toJson c.sampleTypes)) } := rfl
    _ = some c := by rw [terms_toJson h.sampleTypes]

theorem blockOrders_toJson {m : KeyedMap (List String)}
    (h : ∀ order ∈ m.values, Text.NoneBlank order) : blockOrders (some (toJson m)) = m := by
  have hentries : (m.entries.map fun e => (e.1, toJson e.2)).map
      (fun e => (e.1, idList (some e.2))) = m.entries := by
    rw [List.map_map]
    refine (List.map_congr_left fun e he => ?_).trans (List.map_id' _)
    simp only [Function.comp_apply, idList_toJson (h e.2 (List.mem_map_of_mem he))]
  exact (congrArg KeyedMap.ofList hentries).trans m.ofList_entries

theorem metadata_toJson {m : RuleFileMetadata} (h : m.Canonical) :
    metadata (some (toJson m)) = m := by
  have hcategories := filterMap_entries_toJson fun c hc => category?_toJson (h.sampleCategories c hc)
  calc metadata (some (toJson m))
      = { title := m.title, version := m.version, language := m.language
          contentTypes := terms (some (toJson m.contentTypes))
          sampleCategories :=
            (entries (some (toJson m.sampleCategories))).filterMap fun x => category? x.1 x.2
          blockOrders := blockOrders (some (toJson m.blockOrders)) } := rfl
    _ = m := by rw [terms_toJson h.contentTypes, hcategories, blockOrders_toJson h.blockOrders]

/-! ### Requirements -/

theorem criterion_toJson {p : Criterion} (h : Text.isBlank p.id = false) (index : Nat) :
    criterion index none (toJson p) = p := by
  have hwritten : toJson p = .object [("id", .text p.id), ("requirement", .text p.requirement),
      ("failureStatementTemplate", .text p.failureTemplate)] := rfl
  rw [hwritten, criterion, entryId_of_lookup rfl h]
  rfl

theorem check?_toJson {c : Check} (h : c.Canonical) (index : Nat) :
    check? index none (toJson c) = some c := by
  have hcriteria : readEntries (fun i name j => some (criterion i name j))
      (some (toJson c.criteria)) = c.criteria :=
    readEntries_toJson fun p hp i =>
      congrArg some (criterion_toJson (h.criteria _ (List.mem_map_of_mem hp)) i)
  have hwritten : toJson c = .object [("id", .text c.id), ("condition", .text c.condition),
      ("logic", .text (Named.name c.logic)), ("passCriteria", toJson c.criteria)] := rfl
  rw [hwritten, check?, entryId_of_lookup rfl h.id]
  calc _ = some { c with
          logic := (Logic.ofText? (Named.name c.logic)).getD .all
          criteria := readEntries (fun i name j => some (criterion i name j))
            (some (toJson c.criteria)) } := rfl
    _ = some c := by rw [Logic.ofText?_name, Option.getD_some, hcriteria]

theorem infoBlocks_toJson (m : KeyedMap String) : infoBlocks (some (toJson m)) = m := by
  have hentries : (m.entries.map fun e => (e.1, toJson e.2)).filterMap
      (fun e => (asText? e.2).map (e.1, ·)) = m.entries := by
    rw [List.filterMap_map]
    exact List.filterMap_some
  exact (congrArg KeyedMap.ofList hentries).trans m.ofList_entries

theorem requirement?_toJson {r : Requirement} (h : r.Canonical) (index : Nat) :
    requirement? index none (toJson r) = some r := by
  have hchecks : readEntries check? (some (toJson r.checks)) = r.checks :=
    readEntries_toJson fun c hc => check?_toJson (h.checks c hc)
  have hwritten : toJson r = .object [("key", .text r.key), ("id", .text r.id),
      ("title", .text r.title), ("standardReference", .text r.standardReference),
      ("contentType", toJson r.contentTypes), ("checks", toJson r.checks),
      ("infoBlocks", toJson r.infoBlocks), ("metadata", r.metadata)] := rfl
  rw [hwritten, requirement?, requirementKey_of_lookup rfl h.key]
  calc _ = some { r with
          contentTypes := idList (some (toJson r.contentTypes))
          checks := readEntries check? (some (toJson r.checks))
          infoBlocks := infoBlocks (some (toJson r.infoBlocks)) } := rfl
    _ = some r := by rw [idList_toJson h.contentTypes, hchecks, infoBlocks_toJson]

theorem decodeRuleFile_toJson {f : RuleFile} (h : f.Canonical) :
    decodeRuleFile (toJson f) = .ok f := by
  have hrequirements : readEntries requirement? (some (toJson f.requirements)) = f.requirements :=
    readEntries_toJson fun r hr => requirement?_toJson (h.requirements r hr)
  calc decodeRuleFile (toJson f)
      = .ok { metadata := metadata (some (toJson f.metadata))
              requirements := readEntries requirement? (some (toJson f.requirements)) } := rfl
    _ = .ok f := by rw [metadata_toJson h.metadata, hrequirements]

end Loading

end Conformance
