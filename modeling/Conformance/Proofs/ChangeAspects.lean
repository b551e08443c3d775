import Conformance.Proofs.ContentIdentity
import Conformance.Proofs.Prediction
import Mathlib.Data.List.Nodup
import Mathlib.Data.List.Forall2

/-! What the aspects of a change say. The comparison looks checks up by id, the fingerprint of a
requirement runs through them by position. Where no id repeats the two agree: each aspect stands for
one difference, none is listed twice, and the list is empty exactly if the fingerprints are equal.
Where an id repeats, the comparison sees the first check of that id in the place of each. -/

namespace Conformance

/-! ### Checks, compared in what matters to results -/

section Checks

variable {c d : Check}

theorem Criterion.differs_eq_true_iff {p q : Criterion} : p.differs q = true ↔
    p.id ≠ q.id ∨ Text.trim p.requirement ≠ Text.trim q.requirement ∨
      Text.trim p.failureTemplate ≠ Text.trim q.failureTemplate := by
  simp [differs, or_assoc]

theorem Criterion.differs_eq_false_iff {p q : Criterion} :
    p.differs q = false ↔ p.normal = q.normal := by
  rw [← Bool.not_eq_true, differs_eq_true_iff]
  simp [normal]

/-- The criteria of two checks differ in number, or at some position in id or text. -/
def Check.CriteriaChanged (c d : Check) : Prop :=
  c.criteria.length ≠ d.criteria.length ∨
    ∃ (i : Nat) (p q : Criterion), c.criteria[i]? = some p ∧ d.criteria[i]? = some q ∧
      (p.id ≠ q.id ∨ Text.trim p.requirement ≠ Text.trim q.requirement ∨
        Text.trim p.failureTemplate ≠ Text.trim q.failureTemplate)

theorem Check.criteriaDiffer_eq_true_iff : c.criteriaDiffer d = true ↔ c.CriteriaChanged d := by
  simp only [criteriaDiffer, Bool.or_eq_true, bne_iff_ne, List.any_eq_true, CriteriaChanged]
  refine or_congr_right ⟨?_, ?_⟩
  · rintro ⟨⟨p, q⟩, hmem, hdiffers⟩
    obtain ⟨i, hi⟩ := List.mem_iff_getElem?.mp hmem
    obtain ⟨hp, hq⟩ := List.getElem?_zip_eq_some.mp hi
    exact ⟨i, p, q, hp, hq, Criterion.differs_eq_true_iff.mp hdiffers⟩
  · rintro ⟨i, p, q, hp, hq, hdiffers⟩
    have hi : (c.criteria.zip d.criteria)[i]? = some (p, q) :=
      List.getElem?_zip_eq_some.mpr ⟨hp, hq⟩
    exact ⟨(p, q), List.mem_of_getElem? hi, Criterion.differs_eq_true_iff.mpr hdiffers⟩

/-- Lists look the same exactly if their members do, one by one. -/
theorem map_eq_map_iff_forall₂ {α β : Type} {view : α → β} {as bs : List α} :
    as.map view = bs.map view ↔ List.Forall₂ (fun a b => view a = view b) as bs := by
  rw [← List.forall₂_eq_eq_eq, List.forall₂_map_left_iff, List.forall₂_map_right_iff]

theorem Check.criteriaDiffer_eq_false_iff : c.criteriaDiffer d = false ↔
    c.criteria.map Criterion.normal = d.criteria.map Criterion.normal := by
  rw [map_eq_map_iff_forall₂, List.forall₂_iff_zip]
  simp [criteriaDiffer, Criterion.differs_eq_false_iff]

theorem map_id_of_map_normal {cs ds : List Check}
    (h : cs.map Check.normal = ds.map Check.normal) : cs.map (·.id) = ds.map (·.id) := by
  simpa [Function.comp_def, Check.normal] using congrArg (List.map (·.id)) h

/-- Nothing changed in a check exactly if it is the same up to white space. -/
theorem Check.changeAspects_eq_nil_iff (hid : c.id = d.id) :
    c.changeAspects d = [] ↔ c.normal = d.normal := by
  have hnormal : c.normal = d.normal ↔ Text.trim c.condition = Text.trim d.condition ∧
      c.logic = d.logic ∧ c.criteria.map Criterion.normal = d.criteria.map Criterion.normal := by
    simp [normal, hid]
  rw [hnormal, ← criteriaDiffer_eq_false_iff]
  simp [changeAspects]

theorem Check.mem_changeAspects {aspect : ChangeAspect} : aspect ∈ c.changeAspects d ↔
    Text.trim c.condition ≠ Text.trim d.condition ∧ aspect = .condition d.id ∨
    c.logic ≠ d.logic ∧ aspect = .logic d.id ∨
    c.CriteriaChanged d ∧ aspect = .criteria d.id := by
  rw [← criteriaDiffer_eq_true_iff]
  simp [changeAspects]

theorem Check.nodup_changeAspects (c d : Check) : (c.changeAspects d).Nodup := by
  rw [changeAspects]
  split <;> split <;> split <;> simp

end Checks

/-! ### The order of common ids -/

section Order

open scoped List

variable {xs ys : List String} {x y : String}

theorem pair_sublist_filter {keep : String → Bool} :
    [x, y] <+ xs.filter keep ↔ [x, y] <+ xs ∧ keep x = true ∧ keep y = true := by
  constructor
  · intro h
    exact ⟨h.trans List.filter_sublist, List.of_mem_filter (h.subset (by simp)),
      List.of_mem_filter (h.subset (by simp))⟩
  · rintro ⟨h, hx, hy⟩
    simpa [hx, hy] using h.filter keep

theorem pair_sublist_total (hx : x ∈ xs) (hy : y ∈ xs) (hne : x ≠ y) :
    [x, y] <+ xs ∨ [y, x] <+ xs := by
  induction xs with
  | nil => cases hx
  | cons z rest ih =>
    rcases List.mem_cons.mp hx with rfl | hx'
    · have hy' : y ∈ rest := List.mem_of_ne_of_mem hne.symm hy
      exact .inl (List.cons_sublist_cons.mpr (List.singleton_sublist.mpr hy'))
    · rcases List.mem_cons.mp hy with rfl | hy'
      · exact .inr (List.cons_sublist_cons.mpr (List.singleton_sublist.mpr hx'))
      · exact (ih hx' hy').imp (·.cons z) (·.cons z)

theorem pair_sublist_antisymm (h : xs.Nodup) (hxy : [x, y] <+ xs) (hyx : [y, x] <+ xs) :
    x = y := by
  induction xs with
  | nil => cases hxy
  | cons z rest ih =>
    obtain ⟨hz, hrest⟩ := List.nodup_cons.mp h
    cases hxy with
    | cons _ hxy =>
      cases hyx with
      | cons _ hyx => exact ih hrest hxy hyx
      | cons_cons _ hx => exact absurd (hxy.subset (by simp)) hz
    | cons_cons _ hy =>
      cases hyx with
      | cons _ hyx => exact absurd (hyx.subset (by simp)) hz
      | cons_cons _ hx => rfl

/-- Lists of the same members, each once, are equal if no two members swap places. -/
theorem eq_iff_forall_pair_sublist (hxs : xs.Nodup) (hys : ys.Nodup)
    (hmem : ∀ x, x ∈ xs ↔ x ∈ ys) : xs = ys ↔ ∀ x y, [x, y] <+ xs → ¬[y, x] <+ ys := by
  constructor
  · rintro rfl x y hxy hyx
    obtain rfl := pair_sublist_antisymm hxs hxy hyx
    exact List.nodup_iff_sublist.mp hxs x hxy
  · intro h
    have hperm : xs.Perm ys := (List.perm_ext_iff_of_nodup hxs hys).mpr hmem
    have hsame : ∀ {x y}, [x, y] <+ xs → [x, y] <+ ys := by
      intro x y hxy
      have hne : x ≠ y := by
        rintro rfl
        exact List.nodup_iff_sublist.mp hxs x hxy
      have hx : x ∈ ys := (hmem x).mp (hxy.subset (by simp))
      have hy : y ∈ ys := (hmem y).mp (hxy.subset (by simp))
      exact (pair_sublist_total hx hy hne).resolve_right (h x y hxy)
    exact hperm.eq_of_pairwise (fun x y _ _ => pair_sublist_antisymm hys)
      (List.pairwise_iff_forall_sublist.mpr hsame) (List.pairwise_iff_forall_sublist.mpr id)

theorem filter_contains_ne_iff (hxs : xs.Nodup) (hys : ys.Nodup) :
    xs.filter ys.contains ≠ ys.filter xs.contains ↔ ∃ x y, [x, y] <+ xs ∧ [y, x] <+ ys := by
  have hmem : ∀ x, x ∈ xs.filter ys.contains ↔ x ∈ ys.filter xs.contains := by
    simp [and_comm]
  rw [Ne, eq_iff_forall_pair_sublist (hxs.filter _) (hys.filter _) hmem]
  simp only [not_forall, not_not, pair_sublist_filter]
  constructor
  · rintro ⟨x, y, ⟨hxy, -⟩, hyx, -⟩
    exact ⟨x, y, hxy, hyx⟩
  · rintro ⟨x, y, hxy, hyx⟩
    have hx := hxy.subset
    have hy := hyx.subset
    simp only [List.cons_subset] at hx hy
    exact ⟨x, y, ⟨hxy, by simp [hy], by simp [hy]⟩, hyx, by simp [hx], by simp [hx]⟩

theorem eq_iff_filter_contains : xs = ys ↔ (∀ x ∈ xs, x ∈ ys) ∧ (∀ y ∈ ys, y ∈ xs) ∧
    xs.filter ys.contains = ys.filter xs.contains := by
  constructor
  · rintro rfl
    exact ⟨fun _ => id, fun _ => id, rfl⟩
  · rintro ⟨hxs, hys, h⟩
    have hx : xs.filter ys.contains = xs := List.filter_eq_self.mpr (by simpa using hxs)
    have hy : ys.filter xs.contains = ys := List.filter_eq_self.mpr (by simpa using hys)
    rwa [hx, hy] at h

end Order

/-! ### Requirements -/

namespace Requirement

def checkIds (r : Requirement) : List String := r.checks.map (·.id)

/-- What changed between two definitions of one requirement, aspect by aspect. -/
inductive Changed (old new : Requirement) : ChangeAspect → Prop
  | contentTypes : old.contentTypeSet ≠ new.contentTypeSet → Changed old new .contentTypes
  | checkRemoved {id : String} :
    id ∈ old.checkIds → id ∉ new.checkIds → Changed old new (.checkRemoved id)
  | checkAdded {id : String} :
    id ∉ old.checkIds → id ∈ new.checkIds → Changed old new (.checkAdded id)
  /-- Two checks of both definitions swap places. -/
  | checkOrder {x y : String} :
    [x, y].Sublist old.checkIds → [y, x].Sublist new.checkIds → Changed old new .checkOrder
  | condition {c d : Check} : c ∈ old.checks → d ∈ new.checks → c.id = d.id →
    Text.trim c.condition ≠ Text.trim d.condition → Changed old new (.condition d.id)
  | logic {c d : Check} : c ∈ old.checks → d ∈ new.checks → c.id = d.id →
    c.logic ≠ d.logic → Changed old new (.logic d.id)
  | criteria {c d : Check} : c ∈ old.checks → d ∈ new.checks → c.id = d.id →
    c.CriteriaChanged d → Changed old new (.criteria d.id)

/-- The aspects of a check, next to the old one that is declared first under its id. -/
def aspectsOf (old : Requirement) (d : Check) : List ChangeAspect :=
  match old.check? d.id with
  | none => []
  | some c => c.changeAspects d

variable {old new : Requirement} {aspect : ChangeAspect}

theorem changeAspects_eq (old new : Requirement) : old.changeAspects new =
    (if Fingerprint.scope old ≠ Fingerprint.scope new then [.contentTypes] else []) ++
    (old.checkIds.filter (!new.checkIds.contains ·)).map .checkRemoved ++
    (new.checkIds.filter (!old.checkIds.contains ·)).map .checkAdded ++
    (if old.checkIds.filter new.checkIds.contains ≠ new.checkIds.filter old.checkIds.contains then
      [.checkOrder] else []) ++
    new.checks.flatMap old.aspectsOf := by
  simp only [changeAspects, bne_iff_ne]
  rfl

theorem id_of_check? {r : Requirement} {id : String} {c : Check} (h : r.check? id = some c) :
    c.id = id := by
  simpa using List.find?_some h

theorem check?_of_mem {r : Requirement} {c : Check} (hids : r.checkIds.Nodup) (h : c ∈ r.checks) :
    r.check? c.id = some c :=
  find?_of_mem_of_nodup hids h

theorem mem_aspectsOf {d : Check} :
    aspect ∈ old.aspectsOf d ↔ ∃ c, old.check? d.id = some c ∧ aspect ∈ c.changeAspects d := by
  rw [aspectsOf]
  cases old.check? d.id <;> simp

theorem mem_aspectsOf_of_nodup {d : Check} (hold : old.checkIds.Nodup) : aspect ∈ old.aspectsOf d ↔
    ∃ c ∈ old.checks, c.id = d.id ∧ aspect ∈ c.changeAspects d := by
  rw [mem_aspectsOf]
  constructor
  · rintro ⟨c, hc, hmem⟩
    exact ⟨c, List.mem_of_find?_eq_some hc, id_of_check? hc, hmem⟩
  · rintro ⟨c, hc, hid, hmem⟩
    exact ⟨c, hid ▸ check?_of_mem hold hc, hmem⟩

theorem mem_changeAspects_iff (hold : old.checkIds.Nodup) (hnew : new.checkIds.Nodup)
    (hscope : Fingerprint.scope old = Fingerprint.scope new →
      old.contentTypeSet = new.contentTypeSet) :
    aspect ∈ old.changeAspects new ↔ old.Changed new aspect := by
  have hset : Fingerprint.scope old ≠ Fingerprint.scope new ↔
      old.contentTypeSet ≠ new.contentTypeSet := not_congr ⟨hscope, Fingerprint.scope_congr⟩
  simp only [changeAspects_eq, List.mem_append, List.mem_ite_nil_right,
    filter_contains_ne_iff hold hnew, hset, List.mem_singleton, List.mem_map, List.mem_filter,
    Bool.not_eq_true', List.contains_eq_mem, decide_eq_false_iff_not, List.mem_flatMap,
    mem_aspectsOf_of_nodup hold, Check.mem_changeAspects]
  constructor
  · rintro ((((⟨h, rfl⟩ | ⟨id, ⟨hid, hno⟩, rfl⟩) | ⟨id, ⟨hid, hno⟩, rfl⟩) |
      ⟨⟨x, y, hxy, hyx⟩, rfl⟩) | ⟨d, hd, c, hc, hid, ⟨h, rfl⟩ | ⟨h, rfl⟩ | ⟨h, rfl⟩⟩)
    exacts [.contentTypes h, .checkRemoved hid hno, .checkAdded hno hid, .checkOrder hxy hyx,
      .condition hc hd hid h, .logic hc hd hid h, .criteria hc hd hid h]
  · intro h
    cases h with
    | contentTypes h => exact .inl (.inl (.inl (.inl ⟨h, rfl⟩)))
    | checkRemoved hid hno => exact .inl (.inl (.inl (.inr ⟨_, ⟨hid, hno⟩, rfl⟩)))
    | checkAdded hno hid => exact .inl (.inl (.inr ⟨_, ⟨hid, hno⟩, rfl⟩))
    | checkOrder hxy hyx => exact .inl (.inr ⟨⟨_, _, hxy, hyx⟩, rfl⟩)
    | condition hc hd hid h => exact .inr ⟨_, hd, _, hc, hid, .inl ⟨h, rfl⟩⟩
    | logic hc hd hid h => exact .inr ⟨_, hd, _, hc, hid, .inr (.inl ⟨h, rfl⟩)⟩
    | criteria hc hd hid h => exact .inr ⟨_, hd, _, hc, hid, .inr (.inr ⟨h, rfl⟩)⟩

/-- Aspects of one check are never those of another. -/
theorem eq_of_mem_aspectsOf {d : Check} (h : aspect ∈ old.aspectsOf d) :
    aspect = .condition d.id ∨ aspect = .logic d.id ∨ aspect = .criteria d.id := by
  obtain ⟨c, -, hmem⟩ := mem_aspectsOf.mp h
  exact (Check.mem_changeAspects.mp hmem).imp And.right (Or.imp And.right And.right)

theorem nodup_aspectsOf (old : Requirement) (d : Check) : (old.aspectsOf d).Nodup := by
  rw [aspectsOf]
  cases old.check? d.id with
  | none => exact List.nodup_nil
  | some c => exact Check.nodup_changeAspects c d

theorem nodup_flatMap_aspectsOf (hnew : new.checkIds.Nodup) :
    (new.checks.flatMap old.aspectsOf).Nodup := by
  refine List.nodup_flatMap.mpr ⟨fun d _ => nodup_aspectsOf old d, ?_⟩
  refine (List.pairwise_map.mp hnew).imp fun {c d} hne aspect hc hd => ?_
  rcases eq_of_mem_aspectsOf hc with rfl | rfl | rfl <;>
    rcases eq_of_mem_aspectsOf hd with h | h | h <;> simp [hne] at h

theorem nodup_changeAspects (hold : old.checkIds.Nodup) (hnew : new.checkIds.Nodup) :
    (old.changeAspects new).Nodup := by
  have hremoved : ((old.checkIds.filter (!new.checkIds.contains ·)).map
      ChangeAspect.checkRemoved).Nodup :=
    (hold.filter _).map fun _ _ => ChangeAspect.checkRemoved.inj
  have hadded : ((new.checkIds.filter (!old.checkIds.contains ·)).map
      ChangeAspect.checkAdded).Nodup :=
    (hnew.filter _).map fun _ _ => ChangeAspect.checkAdded.inj
  have hlone : ∀ (p : Prop) [Decidable p] (x : ChangeAspect), (if p then [x] else []).Nodup := by
    intro p _ x
    split <;> simp
  simp only [changeAspects_eq, List.nodup_append]
  refine ⟨⟨⟨⟨hlone _ _, hremoved, ?_⟩, hadded, ?_⟩, hlone _ _, ?_⟩,
    nodup_flatMap_aspectsOf hnew, ?_⟩
  -- No two parts of the list hold aspects of the same kind.
  all_goals
    intro x hx y hy
    simp only [List.mem_append, List.mem_ite_nil_right, List.mem_singleton, List.mem_map,
      List.mem_flatMap] at hx hy
  · obtain ⟨-, rfl⟩ := hx
    obtain ⟨id, -, rfl⟩ := hy
    nofun
  · obtain ⟨id, -, rfl⟩ := hy
    rcases hx with ⟨-, rfl⟩ | ⟨id', -, rfl⟩ <;> nofun
  · obtain ⟨-, rfl⟩ := hy
    rcases hx with (⟨-, rfl⟩ | ⟨id, -, rfl⟩) | ⟨id, -, rfl⟩ <;> nofun
  · obtain ⟨d, -, hd⟩ := hy
    rcases hx with ((⟨-, rfl⟩ | ⟨id, -, rfl⟩) | ⟨id, -, rfl⟩) | ⟨-, rfl⟩ <;>
      rcases eq_of_mem_aspectsOf hd with rfl | rfl | rfl <;> nofun

/-! ### No aspect -/

/-- The checks as a lookup by id sees them: each replaced by the first one of its id. -/
def firstChecks (r : Requirement) : List Check := r.checks.map fun c => (r.check? c.id).getD c

theorem exists_check? {r : Requirement} {id : String} (h : id ∈ r.checkIds) :
    ∃ c, r.check? id = some c := by
  obtain ⟨c, hc, rfl⟩ := List.mem_map.mp h
  exact Option.isSome_iff_exists.mp (List.find?_isSome.mpr ⟨c, hc, by simp⟩)

theorem firstChecks_eq_self {r : Requirement} (hids : r.checkIds.Nodup) :
    r.firstChecks = r.checks := by
  have hself : ∀ c ∈ r.checks, (r.check? c.id).getD c = c := by
    intro c hc
    rw [check?_of_mem hids hc, Option.getD_some]
  rw [firstChecks, List.map_congr_left hself, List.map_id']

theorem map_id_firstChecks (r : Requirement) : r.firstChecks.map (·.id) = r.checkIds := by
  rw [firstChecks, List.map_map, checkIds]
  refine List.map_congr_left fun c hc => ?_
  obtain ⟨d, hd⟩ := exists_check? (List.mem_map_of_mem hc)
  rw [Function.comp_apply, hd, Option.getD_some, id_of_check? hd]

theorem map_normal_firstChecks (r : Requirement) :
    r.firstChecks.map (some ∘ Check.normal) =
      r.checkIds.map fun id => (r.check? id).map Check.normal := by
  rw [firstChecks, List.map_map, checkIds, List.map_map]
  refine List.map_congr_left fun c hc => ?_
  obtain ⟨d, hd⟩ := exists_check? (List.mem_map_of_mem hc)
  simp only [Function.comp_apply, hd, Option.getD_some, Option.map_some]

theorem checkIds_of_firstChecks
    (h : new.checks.map Check.normal = old.firstChecks.map Check.normal) :
    old.checkIds = new.checkIds := by
  rw [← map_id_firstChecks, ← map_id_of_map_normal h, checkIds]

/-- With the ids in the same order, the checks are the same as those looked up under their ids
exactly if each one is. -/
theorem map_normal_eq_firstChecks_iff (hids : old.checkIds = new.checkIds) :
    new.checks.map Check.normal = old.firstChecks.map Check.normal ↔
      ∀ d ∈ new.checks, ∃ c, old.check? d.id = some c ∧ c.normal = d.normal := by
  rw [← (Option.some_injective Check).list_map.eq_iff, List.map_map, List.map_map,
    map_normal_firstChecks, hids, checkIds, List.map_map, List.map_inj_left]
  refine forall₂_congr fun d _ => ?_
  rw [Function.comp_apply, Function.comp_apply, eq_comm, Option.map_eq_some_iff]

theorem aspectsOf_eq_nil_iff {d : Check} (hid : d.id ∈ old.checkIds) : old.aspectsOf d = [] ↔
    ∃ c, old.check? d.id = some c ∧ c.normal = d.normal := by
  obtain ⟨c, hc⟩ := exists_check? hid
  rw [aspectsOf, hc]
  simp only [Check.changeAspects_eq_nil_iff (id_of_check? hc), Option.some.injEq, exists_eq_left']

theorem changeAspects_eq_nil_iff : old.changeAspects new = [] ↔
    Fingerprint.scope old = Fingerprint.scope new ∧
      new.checks.map Check.normal = old.firstChecks.map Check.normal := by
  have hparts : old.changeAspects new = [] ↔ Fingerprint.scope old = Fingerprint.scope new ∧
      old.checkIds = new.checkIds ∧ ∀ d ∈ new.checks, old.aspectsOf d = [] := by
    rw [eq_iff_filter_contains]
    simp [changeAspects_eq, and_assoc]
  have hchecks : old.checkIds = new.checkIds → ((∀ d ∈ new.checks, old.aspectsOf d = []) ↔
      new.checks.map Check.normal = old.firstChecks.map Check.normal) := by
    intro hids
    rw [map_normal_eq_firstChecks_iff hids]
    exact forall₂_congr fun d hd => aspectsOf_eq_nil_iff (hids ▸ List.mem_map_of_mem hd)
  rw [hparts]
  constructor
  · rintro ⟨hscope, hids, hnone⟩
    exact ⟨hscope, (hchecks hids).mp hnone⟩
  · rintro ⟨hscope, hnormal⟩
    have hids := checkIds_of_firstChecks hnormal
    exact ⟨hscope, hids, (hchecks hids).mpr hnormal⟩

/-- What the aspects of a change say, where no id repeats: one for each difference, none twice, and
none at all exactly if the fingerprints are equal. -/
theorem changeAspects_exact (hold : old.checkIds.Nodup) (hnew : new.checkIds.Nodup)
    (hfits : old.Fits) (hfits' : new.Fits)
    (hscope : Blake3.Separates (Fingerprint.scopeBytes old) (Fingerprint.scopeBytes new))
    (hcontent :
      Blake3.Separates (Fingerprint.requirementBytes old) (Fingerprint.requirementBytes new)) :
    (∀ aspect, aspect ∈ old.changeAspects new ↔ old.Changed new aspect) ∧
    (old.changeAspects new).Nodup ∧
    (old.changeAspects new = [] ↔
      Fingerprint.requirement old = Fingerprint.requirement new) := by
  have hset (h : Fingerprint.scope old = Fingerprint.scope new) :
      old.contentTypeSet = new.contentTypeSet :=
    Fingerprint.contentTypeSet_eq_iff.mpr
      (Fingerprint.scopeBytes_inj hfits hfits' (hscope (Blake3.hex_inj h)))
  refine ⟨fun _ => mem_changeAspects_iff hold hnew hset, nodup_changeAspects hold hnew, ?_⟩
  rw [changeAspects_eq_nil_iff, firstChecks_eq_self hold]
  constructor
  · rintro ⟨hscopes, hchecks⟩
    exact Fingerprint.requirement_of_checks hscopes hchecks.symm
  · intro h
    obtain ⟨hscopes, hchecks⟩ :=
      Fingerprint.requirementBytes_inj hfits hfits' (hcontent (Blake3.hex_inj h))
    exact ⟨hscopes, hchecks.symm⟩

end Requirement

namespace Specimen

def manifold : Requirement :=
  { key := "kept", contentTypes := ["image"]
    checks := [{ id := "alt", condition := "A" }, { id := "captions" }, { id := "contrast" }] }

def revised : Requirement :=
  { key := "kept", contentTypes := ["video", " image"]
    checks := [{ id := "captions", logic := .any }, { id := "alt" }, { id := "audio" }] }

theorem manifold_revised :
    manifold.changeAspects revised =
      [.contentTypes, .checkRemoved "contrast", .checkAdded "audio", .checkOrder,
        .logic "captions", .condition "alt"] ∧
    (∀ aspect, aspect ∈ manifold.changeAspects revised ↔ manifold.Changed revised aspect) ∧
    (manifold.changeAspects revised).Nodup ∧
    (manifold.changeAspects revised = [] ↔
      Fingerprint.requirement manifold = Fingerprint.requirement revised) := by
  refine ⟨by decide +kernel, Requirement.changeAspects_exact (by decide) (by decide) (by decide)
    (by decide) (fun h => absurd h ?_) fun h => absurd h ?_⟩
  · decide +kernel
  · decide +kernel

end Specimen

/-! ### The updates of a report -/

/-- An update that lists no aspect: what changed is hidden behind the first checks of their ids. -/
theorem Requirement.checkIds_not_nodup_of_hidden {old new : Requirement}
    (hne : Fingerprint.requirement old ≠ Fingerprint.requirement new)
    (h : old.changeAspects new = []) : ¬old.checkIds.Nodup ∧ ¬new.checkIds.Nodup := by
  obtain ⟨hscope, hchecks⟩ := changeAspects_eq_nil_iff.mp h
  have hold : ¬old.checkIds.Nodup := by
    intro hnodup
    rw [firstChecks_eq_self hnodup] at hchecks
    exact hne (Fingerprint.requirement_of_checks hscope hchecks.symm)
  exact ⟨hold, checkIds_of_firstChecks hchecks ▸ hold⟩

/-- An update of a report says what changed unless both definitions repeat a check id; it says
nothing exactly if the new checks are those that the old definition has first under their ids. -/
theorem Audit.aspects_of_updated (a : Audit) (new : RuleFile) {entry : UpdatedRequirement}
    (h : entry ∈ (a.changeReport new).updated) :
    ∃ old ∈ a.ruleFile.requirements, ∃ r, new.requirement? old.key = some r ∧
      entry.key = old.key ∧ entry.aspects = old.changeAspects r ∧
      (old.checkIds.Nodup ∨ r.checkIds.Nodup → entry.aspects ≠ []) ∧
      (entry.aspects = [] ↔ Fingerprint.scope old = Fingerprint.scope r ∧
        r.checks.map Check.normal = old.firstChecks.map Check.normal) := by
  obtain ⟨old, hold, hentry⟩ := List.mem_filterMap.mp h
  obtain ⟨hkey, -, r, hr, hne, haspects⟩ := updatedEntry_eq_some hentry
  refine ⟨old, hold, r, hr, hkey, haspects, fun hids hnil => ?_, ?_⟩
  · obtain ⟨hold, hnew⟩ := Requirement.checkIds_not_nodup_of_hidden hne (haspects ▸ hnil)
    exact hids.elim hold hnew
  · rw [haspects]
    exact Requirement.changeAspects_eq_nil_iff

namespace Specimen

def twofold (condition : String) : RuleFile where
  requirements :=
    [{ key := "kept", checks := [{ id := "c", condition := "A" }, { id := "c", condition }] }]

def hidden : UpdatedRequirement where
  key := "kept"
  id := "kept"
  title := ""
  aspects := []
  affectedSampleIds := []

theorem hidden_mem :
    hidden ∈ (Audit.changeReport ⟨twofold "B", [], []⟩ (twofold "A")).updated := by
  decide +kernel

theorem twofold_hidden : hidden ∈ (Audit.changeReport ⟨twofold "B", [], []⟩ (twofold "A")).updated ∧
    ∃ old ∈ (twofold "B").requirements, ∃ r, (twofold "A").requirement? old.key = some r ∧
      hidden.key = old.key ∧ hidden.aspects = old.changeAspects r ∧
      (old.checkIds.Nodup ∨ r.checkIds.Nodup → hidden.aspects ≠ []) ∧
      (hidden.aspects = [] ↔ Fingerprint.scope old = Fingerprint.scope r ∧
        r.checks.map Check.normal = old.firstChecks.map Check.normal) :=
  ⟨hidden_mem, Audit.aspects_of_updated _ _ hidden_mem⟩

/-- The second condition of the repeated id changes, and the report lists an update without saying
what changed. -/
theorem repeated_id_hides_change : (twofold "A").validate = .ok () ∧
    ∃ entry ∈ (Audit.changeReport ⟨twofold "B", [], []⟩ (twofold "A")).updated,
      entry.aspects = [] :=
  ⟨by rfl, hidden, hidden_mem, rfl⟩

end Specimen

end Conformance
