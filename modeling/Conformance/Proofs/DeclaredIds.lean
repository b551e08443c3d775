import Conformance.Proofs.ChangeAspects
import Conformance.Proofs.SampleIds

/-! The ids of loaded checks and criteria. In an array, an entry without an id of its own gets its
place as its id, and nobody looks whether another entry has that id already. Where the own ids are
distinct, that is the only way in which two entries come to share one. What auditors record is
stored by these ids, so with distinct ids and only then it is recorded for one entry alone. -/

namespace Conformance

/-! ### Records by id -/

/-- What is stored for one of the ids is read for that one only. -/
def ReadApart (α : Type) (ids : List String) : Prop :=
  ∀ (m : KeyedMap α) (a : α) (i : Nat) (id : String), ids[i]? = some id →
    ids.map (m.insert id a).get? = (ids.map m.get?).set i (some a)

theorem readApart_iff_nodup {α : Type} (a : α) {ids : List String} :
    ReadApart α ids ↔ ids.Nodup := by
  constructor
  · intro hapart
    rw [List.nodup_iff_pairwise_ne, List.pairwise_iff_getElem]
    intro i k hi hk hlt heq
    -- In a map with nothing else, what is stored for the one is read for the other.
    have hread := congrArg (·[k]?) (hapart ∅ a i ids[i] (List.getElem?_eq_getElem hi))
    have hempty : (∅ : KeyedMap α).get? ids[k] = none := rfl
    simp only [List.getElem?_set_ne (Nat.ne_of_lt hlt), List.getElem?_map,
      List.getElem?_eq_getElem hk, Option.map_some, KeyedMap.get?_insert, heq, if_true, hempty]
      at hread
    cases hread
  · intro hnodup m b i id hi
    have hlt : i < ids.length := (List.getElem?_eq_some_iff.mp hi).1
    refine List.ext_getElem? fun k => ?_
    rw [List.getElem?_set, List.getElem?_map, List.getElem?_map, List.length_map]
    by_cases hik : i = k
    · subst hik
      rw [if_pos rfl, if_pos hlt, hi, Option.map_some, KeyedMap.get?_insert, if_pos rfl]
    · rw [if_neg hik]
      cases hk : ids[k]? with
      | none => rfl
      | some id' =>
        have hne : id' ≠ id := by
          rintro rfl
          exact hik ((List.getElem?_inj hlt hnodup).mp (hi.trans hk.symm))
        rw [Option.map_some, Option.map_some, KeyedMap.get?_insert, if_neg hne]

def Check.criterionIds (c : Check) : List String := c.criteria.map (·.id)

/-! ### Loaded entries -/

namespace Loading

/-- The id that an entry of an array gets from its position. -/
def placeId (index : Nat) : String := toString (index + 1)

theorem placeId_injective : Function.Injective placeId := fun _ _ h =>
  Nat.succ_injective (Text.toString_injective h)

def isObject : Json → Bool
  | .object _ => true
  | _ => false

/-- No entry gets from its position the own id of another. Entries that are skipped get no id. -/
def PlacesFree (keep : Json → Bool) (items : List Json) : Prop :=
  ∀ index item, items[index]? = some item → keep item = true → ownId? item = none →
    placeId index ∉ items.filterMap ownId?

theorem isObject_of_ownId? {item : Json} (h : ownId? item ≠ none) : isObject item = true := by
  cases item with
  | object o => rfl
  | _ => exact absurd rfl h

section Entries

variable {α : Type} {read : Nat → Option String → Json → Option α} {id : α → String}
  {keep : Json → Bool} {items : List Json}

theorem map_readEntries (hread : ∀ index item, (read index none item).map id =
      if keep item then some ((ownId? item).getD (placeId index)) else none) :
    (readEntries read (some (.array items))).map id =
      (items.zipIdx.filter (keep ·.1)).map fun e => (ownId? e.1).getD (placeId e.2) := by
  rw [readEntries, entries, List.zipIdx_map, List.filterMap_map, List.map_filterMap,
    ← List.filterMap_eq_map, List.filterMap_filter]
  exact List.filterMap_congr fun e _ => hread e.2 e.1

theorem nodup_readEntries_iff {ρ : Type} (a : ρ) (hread : ∀ index item,
      (read index none item).map id =
        if keep item then some ((ownId? item).getD (placeId index)) else none)
    (hskip : ∀ item, ownId? item ≠ none → keep item = true)
    (hown : (items.filterMap ownId?).Nodup) :
    (((readEntries read (some (.array items))).map id).Nodup ↔ PlacesFree keep items) ∧
      (ReadApart ρ ((readEntries read (some (.array items))).map id) ↔ PlacesFree keep items) := by
  have hfree := nodup_positional_iff placeId_injective hskip hown
  rw [← map_readEntries hread] at hfree
  exact ⟨hfree, (readApart_iff_nodup a).trans hfree⟩

end Entries

theorem id_check? (index : Nat) (item : Json) : (check? index none item).map (·.id) =
    if isObject item then some ((ownId? item).getD (placeId index)) else none := by
  cases item with
  | object o => simp [check?, entryId, ownId?, placeId, isObject]
  | _ => rfl

theorem id_criterion (index : Nat) (item : Json) :
    (criterion index none item).id = (ownId? item).getD (placeId index) := by
  cases item with
  | object o => simp [criterion, entryId, ownId?, placeId]
  | _ => rfl

/-- For an array of checks and for an array of criteria in which the own ids are distinct: the ids
that are loaded are distinct exactly if no entry without one gets from its position the id of
another. Exactly then what is recorded for one check or criterion is recorded for no other. -/
theorem declared_apart (index : Nat) (name : Option String) (o : Members) (items : List Json)
    (hown : (items.filterMap ownId?).Nodup) :
    (renamedMember? o "checks" "outline" = some (.array items) →
      ∃ r, requirement? index name (.object o) = some r ∧
        (r.checkIds.Nodup ↔ PlacesFree isObject items) ∧
        (ReadApart CheckResult r.checkIds ↔ PlacesFree isObject items)) ∧
    (renamedMember? o "passCriteria" "criteria" = some (.array items) →
      ∃ c, check? index name (.object o) = some c ∧
        (c.criterionIds.Nodup ↔ PlacesFree (fun _ => true) items) ∧
        (ReadApart CriterionResult c.criterionIds ↔ PlacesFree (fun _ => true) items)) := by
  refine ⟨fun harray => ⟨_, rfl, ?checks⟩, fun harray => ⟨_, rfl, ?criteria⟩⟩
  case checks =>
    simp only [Requirement.checkIds, harray]
    exact nodup_readEntries_iff {} id_check? (fun _ => isObject_of_ownId?) hown
  case criteria =>
    simp only [Check.criterionIds, harray]
    exact nodup_readEntries_iff {} (fun i j => congrArg some (id_criterion i j)) (fun _ _ => rfl)
      hown

end Loading

namespace Specimen

def mixedCriteria : Loading.Members :=
  [("criteria", .array
    [.text "Images have a text", .object [("id", .text "logo")],
     .object [("id", .number (.integer 5))], .object [("id", .text " ")]])]

/-- Checks with and without ids, and an entry that is skipped but has its place. -/
def mixedChecks : Loading.Members :=
  [("checks", .array
    [.object [("id", .text "images")], .null, .object mixedCriteria,
     .object [("id", .number (.integer 2))]])]

theorem mixedChecks_apart : ∃ r c,
    Loading.requirement? 0 none (.object mixedChecks) = some r ∧
    r.checkIds = ["images", "3", "2"] ∧ ReadApart CheckResult r.checkIds ∧
    Loading.check? 2 none (.object mixedCriteria) = some c ∧
    c.criterionIds = ["1", "logo", "5", "4"] ∧ ReadApart CriterionResult c.criterionIds := by
  obtain ⟨r, hr, hchecks, hrecords⟩ :=
    (Loading.declared_apart 0 none mixedChecks _ (by decide)).1 rfl
  obtain ⟨c, hc, hcriteria, hrecords'⟩ :=
    (Loading.declared_apart 2 none mixedCriteria _ (by decide)).2 rfl
  have hids : r.checkIds = ["images", "3", "2"] := by
    obtain rfl := Option.some.inj hr
    decide
  have hids' : c.criterionIds = ["1", "logo", "5", "4"] := by
    obtain rfl := Option.some.inj hc
    decide
  have hfree := hchecks.mp (by rw [hids]; decide)
  have hfree' := hcriteria.mp (by rw [hids']; decide)
  exact ⟨r, c, hr, hids, hrecords.mpr hfree, hc, hids', hrecords'.mpr hfree'⟩

/-- Of two checks, and of two criteria, the first has the very id that the second gets from its
place. -/
def placesTaken : Loading.Members :=
  [("key", .text "r"),
   ("checks", .array
     [.object [("id", .text "2"),
        ("passCriteria", .array [.object [("id", .text "2")], .text "Second"])],
      .object [("condition", .text "Second")]])]

/-- One stored check, with one stored criterion, answers for all of them. -/
theorem placesTaken_answered : ∃ items r,
    Loading.renamedMember? placesTaken "checks" "outline" = some (.array items) ∧
    (items.filterMap Loading.ownId?).Nodup ∧
    Loading.requirement? 0 none (.object placesTaken) = some r ∧ ¬r.checkIds.Nodup ∧
    r.checks.map Check.criterionIds = [["2", "2"], []] ∧
    r.status (some
      { checks := .ofList
          [("2", { mark := .passed, criteria := .ofList [("2", { status := .passed })] })] }) =
      .passed :=
  ⟨_, _, rfl, by decide, rfl, by decide, by decide, by decide⟩

end Specimen

end Conformance
