import Conformance.Problem.Group
import Mathlib.Data.List.Sort

/-! Grouping is a stable partition. Each group holds the problems of its key in their order, and the
groups stand in the order in which their keys first appear. While they are made, the index has for
each key just the place of its group, so every problem finds its group. The partition depends on the
problems alone, and reading it group by group gives a list with the same partition. -/

namespace Conformance

open scoped List

namespace ProblemGroup

/-- The place at which a key first appears among the problems. -/
def firstPlace (problems : List Problem) (key : ProblemGroupKey) : Nat :=
  (problems.map (·.groupKey)).idxOf key

/-- The group holds the problems of its key, and what it says of itself is from the first one. -/
structure Collects (problems : List Problem) (g : ProblemGroup) : Prop where
  nonempty : g.problems ≠ []
  problems_eq : g.problems = problems.filter fun p => p.groupKey = g.key
  title : ∀ p ∈ g.problems.head?, g.requirementTitle = p.requirementTitle
  description : ∀ p ∈ g.problems.head?, g.sampleDescription = p.sampleDescription

/-- The groups are the problems parted by key, in the order in which the keys first appear. -/
structure StablePartition (problems : List Problem) (groups : List ProblemGroup) : Prop where
  ordered : groups.Pairwise fun g h => firstPlace problems g.key < firstPlace problems h.key
  covers : ∀ p ∈ problems, ∃ g ∈ groups, g.key = p.groupKey
  collects : ∀ g ∈ groups, g.Collects problems

/-- The group after a problem is put at the end of the group of its key. -/
def receive (p : Problem) (g : ProblemGroup) : ProblemGroup :=
  if g.key = p.groupKey then { g with problems := g.problems ++ [p] } else g

variable {problems others : List Problem} {groups : List ProblemGroup} {g h : ProblemGroup}
  {p : Problem}

theorem key_receive (p : Problem) (g : ProblemGroup) : (g.receive p).key = g.key := by
  rw [receive]
  split <;> rfl

theorem map_key_receive (p : Problem) (groups : List ProblemGroup) :
    (groups.map (receive p)).map (·.key) = groups.map (·.key) := by
  rw [List.map_map]
  exact List.map_congr_left fun g _ => key_receive p g

/-! ### One more problem -/

theorem firstPlace_lt (hp : p ∈ problems) : firstPlace problems p.groupKey < problems.length := by
  have hlt := List.idxOf_lt_length_iff.mpr (List.mem_map_of_mem (f := Problem.groupKey) hp)
  rwa [List.length_map] at hlt

theorem firstPlace_append (hp : p ∈ problems) (more : List Problem) :
    firstPlace (problems ++ more) p.groupKey = firstPlace problems p.groupKey := by
  rw [firstPlace, List.map_append]
  exact List.idxOf_append_of_mem (List.mem_map_of_mem hp)

theorem firstPlace_append_of_new {key : ProblemGroupKey} (hnew : ∀ q ∈ problems, q.groupKey ≠ key)
    (more : List Problem) :
    firstPlace (problems ++ more) key = problems.length + firstPlace more key := by
  have hkey : key ∉ problems.map (·.groupKey) := by
    intro hmem
    obtain ⟨q, hq, heq⟩ := List.mem_map.mp hmem
    exact hnew q hq heq
  rw [firstPlace, List.map_append, List.idxOf_append_of_notMem hkey, List.length_map, firstPlace]

theorem firstPlace_cons_self (p : Problem) (rest : List Problem) :
    firstPlace (p :: rest) p.groupKey = 0 :=
  List.idxOf_cons_self

theorem Collects.of_mem (hg : g.Collects problems) (hp : p ∈ g.problems) :
    p ∈ problems ∧ p.groupKey = g.key := by
  rw [hg.problems_eq, List.mem_filter] at hp
  exact ⟨hp.1, of_decide_eq_true hp.2⟩

theorem Collects.exists_mem (hg : g.Collects problems) : ∃ p ∈ problems, p.groupKey = g.key := by
  obtain ⟨p, hp⟩ := List.exists_mem_of_ne_nil _ hg.nonempty
  exact ⟨p, hg.of_mem hp⟩

theorem Collects.receive (hg : g.Collects problems) (p : Problem) :
    (g.receive p).Collects (problems ++ [p]) := by
  by_cases hkey : g.key = p.groupKey
  · have hhead : (g.problems ++ [p]).head? = g.problems.head? :=
      List.head?_append_of_ne_nil _ hg.nonempty
    rw [ProblemGroup.receive, if_pos hkey]
    constructor
    case nonempty => simp
    case problems_eq => simp [hg.problems_eq, List.filter_append, hkey]
    case title => simpa only [hhead] using hg.title
    case description => simpa only [hhead] using hg.description
  · rw [ProblemGroup.receive, if_neg hkey]
    refine ⟨hg.nonempty, ?_, hg.title, hg.description⟩
    rw [List.filter_append, ← hg.problems_eq]
    simp [Ne.symm hkey]

theorem collects_opened (hnew : ∀ q ∈ problems, q.groupKey ≠ p.groupKey) :
    ((opened p).receive p).Collects (problems ++ [p]) := by
  have hnone : problems.filter (fun q => q.groupKey = p.groupKey) = [] := by
    simpa [List.filter_eq_nil_iff] using hnew
  constructor
  all_goals simp [receive, opened, hnone]

namespace StablePartition

theorem keys_nodup (hpart : StablePartition problems groups) : (groups.map (·.key)).Nodup := by
  rw [List.nodup_iff_pairwise_ne, List.pairwise_map]
  refine hpart.ordered.imp fun hlt heq => ?_
  rw [heq] at hlt
  exact Nat.lt_irrefl _ hlt

/-- Keys keep their order of first appearance whatever comes after. -/
theorem ordered_append (hpart : StablePartition problems groups) (more : List Problem) :
    groups.Pairwise fun g h =>
      firstPlace (problems ++ more) g.key < firstPlace (problems ++ more) h.key := by
  refine hpart.ordered.imp_of_mem fun {g h} hg hh hlt => ?_
  obtain ⟨p, hp, hgkey⟩ := (hpart.collects g hg).exists_mem
  obtain ⟨q, hq, hhkey⟩ := (hpart.collects h hh).exists_mem
  rw [← hgkey, ← hhkey] at hlt ⊢
  rwa [firstPlace_append hp, firstPlace_append hq]

/-- Putting a problem into its group leaves the keys as they are. -/
theorem of_receive (hordered : groups.Pairwise fun g h =>
      firstPlace (problems ++ [p]) g.key < firstPlace (problems ++ [p]) h.key)
    (hcovers : ∀ q ∈ problems ++ [p], ∃ g ∈ groups, g.key = q.groupKey)
    (hcollects : ∀ g ∈ groups, (g.receive p).Collects (problems ++ [p])) :
    StablePartition (problems ++ [p]) (groups.map (receive p)) := by
  constructor
  case ordered => simpa only [List.pairwise_map, key_receive] using hordered
  case covers =>
    intro q hq
    obtain ⟨g, hg, hkey⟩ := hcovers q hq
    exact ⟨g.receive p, List.mem_map_of_mem hg, (key_receive p g).trans hkey⟩
  case collects =>
    intro h hh
    obtain ⟨g, hg, rfl⟩ := List.mem_map.mp hh
    exact hcollects g hg

theorem receive_known (hpart : StablePartition problems groups)
    (hknown : ∃ g ∈ groups, g.key = p.groupKey) :
    StablePartition (problems ++ [p]) (groups.map (receive p)) := by
  refine of_receive (hpart.ordered_append [p]) (fun q hq => ?_) fun g hg =>
    (hpart.collects g hg).receive p
  rcases List.mem_append.mp hq with hq | hq
  · exact hpart.covers q hq
  · rwa [List.mem_singleton.mp hq]

theorem receive_opened (hpart : StablePartition problems groups)
    (hnew : ∀ g ∈ groups, g.key ≠ p.groupKey) :
    StablePartition (problems ++ [p]) ((groups ++ [opened p]).map (receive p)) := by
  have hfirst : ∀ q ∈ problems, q.groupKey ≠ p.groupKey := by
    intro q hq heq
    obtain ⟨g, hg, hkey⟩ := hpart.covers q hq
    exact hnew g hg (hkey.trans heq)
  refine of_receive (List.pairwise_append.mpr ⟨hpart.ordered_append [p],
    List.pairwise_singleton _ _, fun g hg h hh => ?_⟩) (fun q hq => ?_) fun g hg => ?_
  · -- The new key first appears after all the others, where the list was at its end.
    obtain ⟨q, hq, hkey⟩ := (hpart.collects g hg).exists_mem
    have hplace : firstPlace (problems ++ [p]) h.key = problems.length := by
      rw [List.mem_singleton.mp hh]
      show firstPlace (problems ++ [p]) p.groupKey = problems.length
      rw [firstPlace_append_of_new hfirst, firstPlace_cons_self, Nat.add_zero]
    rw [hplace, ← hkey, firstPlace_append hq]
    exact firstPlace_lt hq
  · rcases List.mem_append.mp hq with hq | hq
    · obtain ⟨g, hg, hkey⟩ := hpart.covers q hq
      exact ⟨g, List.mem_append_left _ hg, hkey⟩
    · rw [List.mem_singleton.mp hq]
      exact ⟨opened p, List.mem_append_right _ (List.mem_singleton_self _), rfl⟩
  · rcases List.mem_append.mp hg with hg | hg
    · exact (hpart.collects g hg).receive p
    · rw [List.mem_singleton.mp hg]
      exact collects_opened hfirst

end StablePartition

/-! ### What determines a partition -/

/-- A group is determined by its key. -/
theorem Collects.eq_of_key (hg : g.Collects problems) (hh : h.Collects problems)
    (hkey : g.key = h.key) : g = h := by
  have hproblems : g.problems = h.problems := by rw [hg.problems_eq, hh.problems_eq, hkey]
  have hhead : g.problems.head? = some (g.problems.head hg.nonempty) := List.head?_eq_some_head _
  have htitle := (hg.title _ hhead).trans (hh.title _ (hproblems ▸ hhead)).symm
  have hdescription := (hg.description _ hhead).trans (hh.description _ (hproblems ▸ hhead)).symm
  cases g
  cases h
  rw [ProblemGroup.mk.injEq]
  exact ⟨hkey, htitle, hdescription, hproblems⟩

namespace StablePartition

theorem mem_of_mem {gs hs : List ProblemGroup} (hpart : StablePartition problems gs)
    (hother : StablePartition problems hs) (hg : g ∈ gs) : g ∈ hs := by
  have hcollects := hpart.collects g hg
  obtain ⟨p, hp, hkey⟩ := hcollects.exists_mem
  obtain ⟨h, hh, hhkey⟩ := hother.covers p hp
  rwa [hcollects.eq_of_key (hother.collects h hh) (hkey.symm.trans hhkey.symm)]

theorem unique {gs hs : List ProblemGroup} (hpart : StablePartition problems gs)
    (hother : StablePartition problems hs) : gs = hs :=
  List.Pairwise.eq_of_mem_iff
    (r := InvImage (· < ·) fun g : ProblemGroup => firstPlace problems g.key)
    hpart.ordered hother.ordered fun _ => ⟨hpart.mem_of_mem hother, hother.mem_of_mem hpart⟩

/-- Lists with the same partition hold the same problems. -/
theorem perm (hpart : StablePartition problems groups) (hother : StablePartition others groups) :
    problems ~ others := by
  have hcount : ∀ {ps qs : List Problem}, StablePartition ps groups → StablePartition qs groups →
      ∀ p ∈ ps, ps.count p = qs.count p := by
    intro ps qs hps hqs p hp
    obtain ⟨g, hg, hkey⟩ := hps.covers p hp
    have hfilter := (hps.collects g hg).problems_eq.symm.trans (hqs.collects g hg).problems_eq
    have hselected : ∀ l : List Problem,
        (l.filter fun q => q.groupKey = g.key).count p = l.count p :=
      fun l => List.count_filter (decide_eq_true hkey.symm)
    rw [← hselected ps, hfilter, hselected qs]
  rw [List.perm_iff_count]
  intro p
  by_cases hp : p ∈ problems
  · exact hcount hpart hother p hp
  · by_cases hp' : p ∈ others
    · exact (hcount hother hpart p hp').symm
    · rw [List.count_eq_zero_of_not_mem hp, List.count_eq_zero_of_not_mem hp']

end StablePartition

/-! ### The partition read group by group -/

section Flatten

variable {gs : List ProblemGroup}

theorem filter_flatMap_of_key (hkeyed : ∀ g ∈ gs, ∀ p ∈ g.problems, p.groupKey = g.key)
    (hnodup : (gs.map (·.key)).Nodup) (hg : g ∈ gs) :
    (gs.flatMap (·.problems)).filter (fun p => p.groupKey = g.key) = g.problems := by
  have hself : g.problems.filter (fun p => p.groupKey = g.key) = g.problems := by
    simpa [List.filter_eq_self] using hkeyed g hg
  have hother : ∀ hs ⊆ gs, g.key ∉ hs.map (·.key) →
      (hs.flatMap (·.problems)).filter (fun p => p.groupKey = g.key) = [] := by
    intro hs hsub hkey
    rw [List.filter_eq_nil_iff]
    intro p hp
    obtain ⟨h, hh, hp⟩ := List.mem_flatMap.mp hp
    rw [decide_eq_true_iff, hkeyed h (hsub hh) p hp]
    exact fun heq => hkey (List.mem_map.mpr ⟨h, hh, heq⟩)
  obtain ⟨front, back, rfl⟩ := List.append_of_mem hg
  rw [List.map_append, List.map_cons, List.nodup_middle, List.nodup_cons, List.mem_append,
    not_or] at hnodup
  rw [List.flatMap_append, List.flatMap_cons, List.filter_append, List.filter_append, hself,
    hother front (List.subset_append_left _ _) hnodup.1.1,
    hother back (fun _ => by simp +contextual) hnodup.1.2, List.nil_append, List.append_nil]

/-- A key first appears where its group begins. -/
theorem ordered_flatMap (hkeyed : ∀ g ∈ gs, ∀ p ∈ g.problems, p.groupKey = g.key)
    (hnonempty : ∀ g ∈ gs, g.problems ≠ []) (hnodup : (gs.map (·.key)).Nodup) :
    gs.Pairwise fun g h => firstPlace (gs.flatMap (·.problems)) g.key <
      firstPlace (gs.flatMap (·.problems)) h.key := by
  induction gs with
  | nil => exact .nil
  | cons first rest ih =>
    rw [List.map_cons, List.nodup_cons] at hnodup
    rw [List.forall_mem_cons] at hkeyed hnonempty
    rw [List.flatMap_cons]
    have hstart : firstPlace (first.problems ++ rest.flatMap (·.problems)) first.key = 0 := by
      obtain ⟨p, ps, hproblems⟩ := List.exists_cons_of_ne_nil hnonempty.1
      have hp : p.groupKey = first.key := hkeyed.1 p (hproblems ▸ List.mem_cons_self)
      rw [hproblems, ← hp]
      exact firstPlace_cons_self p _
    have hlater : ∀ g ∈ rest, firstPlace (first.problems ++ rest.flatMap (·.problems)) g.key =
        first.problems.length + firstPlace (rest.flatMap (·.problems)) g.key := by
      intro g hg
      refine firstPlace_append_of_new (fun p hp heq => hnodup.1 ?_) _
      rw [← hkeyed.1 p hp, heq]
      exact List.mem_map_of_mem hg
    rw [List.pairwise_cons]
    constructor
    · intro g hg
      rw [hstart, hlater g hg]
      exact Nat.add_pos_left (List.length_pos_of_ne_nil hnonempty.1) _
    · refine (ih hkeyed.2 hnonempty.2 hnodup.2).imp_of_mem fun hg hh hlt => ?_
      rw [hlater _ hg, hlater _ hh]
      exact Nat.add_lt_add_left hlt _

end Flatten

theorem StablePartition.flatMap (hpart : StablePartition problems groups) :
    StablePartition (groups.flatMap (·.problems)) groups := by
  have hkeyed : ∀ g ∈ groups, ∀ p ∈ g.problems, p.groupKey = g.key :=
    fun g hg p hp => ((hpart.collects g hg).of_mem hp).2
  constructor
  case ordered =>
    exact ordered_flatMap hkeyed (fun g hg => (hpart.collects g hg).nonempty) hpart.keys_nodup
  case covers =>
    intro p hp
    obtain ⟨g, hg, hp⟩ := List.mem_flatMap.mp hp
    exact ⟨g, hg, (hkeyed g hg p hp).symm⟩
  case collects =>
    intro g hg
    obtain ⟨hnonempty, -, htitle, hdescription⟩ := hpart.collects g hg
    exact ⟨hnonempty, (filter_flatMap_of_key hkeyed hpart.keys_nodup hg).symm, htitle, hdescription⟩

end ProblemGroup

/-! ### The index -/

namespace Grouping

open ProblemGroup

/-- The index has for each key the place of its group, and nothing for a key without a group. -/
def Indexed (s : Grouping) : Prop :=
  ∀ key place, s.index.lookup key = some place ↔ (s.groups.map (·.key))[place]? = some key

variable {s : Grouping} {place : Nat} {p : Problem} {problems : List Problem}

theorem Indexed.key_ne (hindex : s.Indexed) {key : ProblemGroupKey}
    (hnone : s.index.lookup key = none) : ∀ g ∈ s.groups, g.key ≠ key := by
  rintro g hg rfl
  obtain ⟨place, hplace⟩ := List.mem_iff_getElem?.mp (List.mem_map_of_mem (f := (·.key)) hg)
  rw [(hindex g.key place).mpr hplace] at hnone
  cases hnone

theorem getElem?_concat_eq_some_iff {α : Type} {as : List α} {a b : α} {i : Nat} :
    (as ++ [a])[i]? = some b ↔ as[i]? = some b ∨ i = as.length ∧ b = a := by
  rcases Nat.lt_trichotomy i as.length with hlt | rfl | hgt
  · rw [List.getElem?_append_left hlt]
    simp [Nat.ne_of_lt hlt]
  · simp [eq_comm]
  · have hnone : as[i]? = none ∧ (as ++ [a])[i]? = none :=
      ⟨List.getElem?_eq_none (Nat.le_of_lt hgt),
        List.getElem?_eq_none (by rw [List.length_append]; exact hgt)⟩
    simp [hnone, Nat.ne_of_gt hgt]

theorem Indexed.opened (hindex : s.Indexed) (hnone : s.index.lookup p.groupKey = none) :
    Indexed { groups := s.groups ++ [.opened p],
              index := (p.groupKey, s.groups.length) :: s.index } := by
  intro key place
  rw [List.map_append, List.map_singleton, getElem?_concat_eq_some_iff, ← hindex, List.length_map,
    List.lookup_cons]
  by_cases hkey : key = p.groupKey
  · subst hkey
    simp [hnone, ProblemGroup.opened, eq_comm]
  · simp [hkey, beq_eq_false_iff_ne.mpr hkey, ProblemGroup.opened]

/-- A problem put into the group at the place of its key is received by that group only. -/
theorem Indexed.set_eq_map (hindex : s.Indexed) {g : ProblemGroup}
    (hg : s.groups[place]? = some g) (hkey : g.key = p.groupKey) :
    s.groups.set place { g with problems := g.problems ++ [p] } =
      s.groups.map (receive p) := by
  have hreceive : { g with problems := g.problems ++ [p] } = g.receive p := (if_pos hkey).symm
  have hlookup : ∀ {i : Nat} {h : ProblemGroup}, s.groups[i]? = some h →
      s.index.lookup h.key = some i := by
    intro i h hi
    rw [hindex, List.getElem?_map, hi, Option.map_some]
  apply List.ext_getElem?
  intro i
  rw [hreceive, List.getElem?_map]
  by_cases heq : place = i
  · subst heq
    rw [List.getElem?_set_self', hg]
    rfl
  · rw [List.getElem?_set_ne heq]
    cases hi : s.groups[i]? with
    | none => rfl
    | some h =>
      have hne : h.key ≠ p.groupKey := by
        intro hsame
        have hplaces := hlookup hg
        rw [hkey, ← hsame, hlookup hi] at hplaces
        exact heq (Option.some.inj hplaces).symm
      rw [Option.map_some, receive, if_neg hne]

/-- The place that the index gives, or that of the group opened at the end, is the place of the
group of the problem. -/
theorem entry_spec (hindex : s.Indexed) (p : Problem) :
    (s.entry p).1.Indexed ∧
    (∃ g, (s.entry p).1.groups[(s.entry p).2]? = some g ∧ g.key = p.groupKey) ∧
    ((s.entry p).1.groups = s.groups ∨
      (∀ g ∈ s.groups, g.key ≠ p.groupKey) ∧ (s.entry p).1.groups = s.groups ++ [.opened p]) := by
  rw [entry]
  cases hlookup : s.index.lookup p.groupKey with
  | some place =>
    have hplace := (hindex p.groupKey place).mp hlookup
    rw [List.getElem?_map] at hplace
    exact ⟨hindex, Option.map_eq_some_iff.mp hplace, .inl rfl⟩
  | none =>
    exact ⟨hindex.opened hlookup, ⟨_, List.getElem?_concat_length, rfl⟩,
      .inr ⟨hindex.key_ne hlookup, rfl⟩⟩

/-- A problem always finds its group, and the groups stay the partition of all that was added. -/
theorem exists_add (hindex : s.Indexed) (hpart : StablePartition problems s.groups) (p : Problem) :
    ∃ t, s.add p = some t ∧ t.Indexed ∧ StablePartition (problems ++ [p]) t.groups := by
  obtain ⟨hentry, ⟨g, hg, hkey⟩, hgroups⟩ := entry_spec hindex p
  have hadd : s.add p =
      some { (s.entry p).1 with groups := (s.entry p).1.groups.map (receive p) } := by
    rw [← hentry.set_eq_map hg hkey, add]
    simp only [hg, Option.map_some]
  refine ⟨_, hadd, ?_, ?_⟩
  · intro key place
    rw [map_key_receive]
    exact hentry key place
  · rcases hgroups with hsame | ⟨hnew, hopened⟩
    · have hmem := List.mem_of_getElem? hg
      rw [hsame] at hmem ⊢
      exact hpart.receive_known ⟨g, hmem, hkey⟩
    · rw [hopened]
      exact hpart.receive_opened hnew

theorem exists_foldlM (hindex : s.Indexed) (hpart : StablePartition problems s.groups)
    (rest : List Problem) :
    ∃ t, rest.foldlM add s = some t ∧ StablePartition (problems ++ rest) t.groups := by
  induction rest generalizing s problems with
  | nil => exact ⟨s, rfl, by rwa [List.append_nil]⟩
  | cons p rest ih =>
    obtain ⟨t, hadd, hindex', hpart'⟩ := exists_add hindex hpart p
    obtain ⟨u, hrest, hfinal⟩ := ih hindex' hpart'
    refine ⟨u, ?_, ?_⟩
    · rw [List.foldlM_cons, hadd]
      exact hrest
    · rwa [List.append_assoc, List.singleton_append] at hfinal

end Grouping

namespace ProblemGroup

theorem stablePartition_nil : StablePartition [] [] :=
  ⟨.nil, fun _ hp => absurd hp List.not_mem_nil, fun _ hg => absurd hg List.not_mem_nil⟩

theorem exists_ofProblems (problems : List Problem) :
    ∃ groups, ofProblems problems = some groups ∧ StablePartition problems groups := by
  have hempty : Grouping.Indexed {} := fun key place => by simp
  obtain ⟨t, hrun, hpart⟩ := Grouping.exists_foldlM hempty stablePartition_nil problems
  exact ⟨t.groups, by rw [ofProblems, hrun, Option.map_some], hpart⟩

/-- The groups of a list of problems are the one stable partition of it. -/
theorem ofProblems_eq_some_iff {problems : List Problem} {groups : List ProblemGroup} :
    ofProblems problems = some groups ↔ StablePartition problems groups := by
  obtain ⟨found, hfound, hpart⟩ := exists_ofProblems problems
  constructor
  · intro h
    rw [hfound] at h
    rwa [← Option.some.inj h]
  · intro h
    rw [hfound, hpart.unique h]

/-- Every list of problems is grouped, since the index never leads past the groups. The groups are
its stable partition by key; one after another they hold all of its problems, and grouping these
again gives the same groups. -/
theorem grouping_stable (problems : List Problem) : ∃ groups,
    ofProblems problems = some groups ∧
    (groups.map (·.key)).Nodup ∧
    StablePartition problems groups ∧
    groups.flatMap (·.problems) ~ problems ∧
    ofProblems (groups.flatMap (·.problems)) = some groups := by
  obtain ⟨groups, hgroups, hpart⟩ := exists_ofProblems problems
  have hflat := hpart.flatMap
  exact ⟨groups, hgroups, hpart.keys_nodup, hpart, hflat.perm hpart,
    ofProblems_eq_some_iff.mpr hflat⟩

end ProblemGroup

end Conformance
