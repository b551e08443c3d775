import Conformance.Proofs.SavedRuleFile

/-! Rule files with their collections keyed or listed. Requirements, checks and criteria are stored
in an array or in an object, where member names stand in for keys and ids that are missing. An
object is listed by writing each name into its entry, wherever the reader would fall back on it.
Blank names are no use for that, since a blank key or id in an entry counts as absent. Listing a
rule file changes nothing of what is read from it. -/

namespace Conformance.Loading

/-! ### Listing -/

/-- The members with a text under `name`, in place of what was there. -/
def setText (name text : String) (o : Members) : Members :=
  (name, .text text) :: o.filter fun e => e.1 != name

/-- The members with those under one of the names rewritten. -/
def rewriteMembers (names : List String) (rewrite : Json → Json) (o : Members) : Members :=
  o.map fun e => if e.1 ∈ names then (e.1, rewrite e.2) else e

/-- An object with its members rewritten; any other value as it is. -/
def rewriteObject (rewrite : Members → Members) : Json → Json
  | .object o => .object (rewrite o)
  | j => j

/-- A collection with its entries rewritten. An object without blank member names becomes an array,
in which each entry carries its name. -/
def listed (carry : String → Json → Json) (rewrite : Json → Json) : Json → Json
  | .array items => .array (items.map rewrite)
  | .object o =>
    if o.all fun e => !Text.isBlank e.1 then .array (o.map fun e => carry e.1 (rewrite e.2))
    else .object (o.map fun e => (e.1, rewrite e.2))
  | j => j

/-- The members of an entry with its name under `member`, unless the entry has an identifier of its
own. -/
def carryName (member : String) (own : Members → Option String) (name : String) (o : Members) :
    Members :=
  if (own o).isSome then o else setText member name o

/-- A check or criterion carries its name as its id. -/
def carryId : String → Members → Members := carryName "id" (filledMember? · "id")

/-- The key that a requirement has of its own, or else the id that serves as its key. -/
def ownKey? (o : Members) : Option String := (filledMember? o "key").or (filledMember? o "id")

/-- A requirement carries its name as its key. -/
def carryKey : String → Members → Members := carryName "key" ownKey?

/-- A criterion that carries its name. Just a text, or anything but an object, becomes an object. -/
def carriedCriterion (name : String) : Json → Json
  | .object o => .object (carryId name o)
  | j => .object [("id", .text name), ("requirement", j)]

def listedCriteria : Json → Json := listed carriedCriterion id

def listedCheck : Json → Json :=
  rewriteObject (rewriteMembers ["passCriteria", "criteria"] listedCriteria)

def listedChecks : Json → Json := listed (fun name => rewriteObject (carryId name)) listedCheck

def listedRequirement : Json → Json :=
  rewriteObject (rewriteMembers ["checks", "outline"] listedChecks)

def listedRequirements : Json → Json :=
  listed (fun name => rewriteObject (carryKey name)) listedRequirement

/-- A rule file with all collections listed, under their present and their former names. -/
def listedRuleFile : Json → Json :=
  rewriteObject (rewriteMembers ["requirements"] listedRequirements)

/-! ### Members -/

section Members

variable {o : Members} {name : String}

theorem lookup_setText (name text : String) (o : Members) (n : String) :
    (setText name text o).lookup n = if n = name then some (.text text) else o.lookup n := by
  rw [setText, KeyedMap.lookup_cons_eq]
  split
  · rfl
  · next hne =>
    induction o with
    | nil => rfl
    | cons e rest ih =>
      by_cases he : e.1 = name
      · rw [List.filter_cons_of_neg (by simp [he]), ih, KeyedMap.lookup_cons_eq, he, if_neg hne]
      · rw [List.filter_cons_of_pos (by simp [he]), KeyedMap.lookup_cons_eq, ih,
          KeyedMap.lookup_cons_eq]

theorem lookup_rewriteMembers (names : List String) (rewrite : Json → Json) (o : Members)
    (n : String) : (rewriteMembers names rewrite o).lookup n =
      if n ∈ names then (o.lookup n).map rewrite else o.lookup n := by
  induction o with
  | nil => simp [rewriteMembers]
  | cons e rest ih =>
    rw [rewriteMembers] at ih
    rw [rewriteMembers, List.map_cons, KeyedMap.lookup_cons_eq, KeyedMap.lookup_cons_eq, ih]
    by_cases hn : n = e.1
    · subst hn
      by_cases hmem : e.1 ∈ names <;> simp [hmem]
    · by_cases hmem : e.1 ∈ names <;> simp [hn, hmem]

theorem renamedMember?_rewriteMembers (name former : String) (rewrite : Json → Json) (o : Members) :
    renamedMember? (rewriteMembers [name, former] rewrite o) name former =
      (renamedMember? o name former).map rewrite := by
  rw [renamedMember?, renamedMember?, lookup_rewriteMembers, lookup_rewriteMembers,
    if_pos (by simp), if_pos (by simp)]
  cases o.lookup name <;> rfl

theorem filledMember?_congr {o' : Members} (h : o'.lookup name = o.lookup name) :
    filledMember? o' name = filledMember? o name := by
  rw [filledMember?, filledMember?, h]

theorem textMember_congr {o' : Members} (h : o'.lookup name = o.lookup name) :
    textMember o' name = textMember o name := by
  rw [textMember, textMember, h]

theorem wordMember_congr {o' : Members} (h : o'.lookup name = o.lookup name) :
    wordMember o' name = wordMember o name := by
  rw [wordMember, wordMember, h]

theorem renamedMember?_congr {o' : Members} {former : String} (h : o'.lookup name = o.lookup name)
    (hformer : o'.lookup former = o.lookup former) :
    renamedMember? o' name former = renamedMember? o name former := by
  rw [renamedMember?, renamedMember?, h, hformer]

section Carrying

variable {member : String} {own : Members → Option String}

theorem lookup_carryName {n : String} (hn : n ≠ member) :
    (carryName member own name o).lookup n = o.lookup n := by
  rw [carryName]
  split
  · rfl
  · rw [lookup_setText, if_neg hn]

theorem own_carryName (own : Members → Option String)
    (h : own (setText member name o) = some name) :
    own (carryName member own name o) = (own o).or (some name) := by
  rw [carryName]
  cases hown : own o with
  | some id => rw [Option.isSome_some, if_pos rfl, hown, Option.some_or]
  | none => rw [Option.isSome_none, if_neg (by decide), h, Option.none_or]

end Carrying

/-- An id that is carried is read as the name would be. -/
theorem entryId_carryId (h : Text.isBlank name = false) (index : Nat) :
    entryId (carryId name o) none index = entryId o (some name) index := by
  have hset : filledMember? (setText "id" name o) "id" = some name :=
    filledMember?_of_lookup (by rw [lookup_setText, if_pos rfl]) h
  have hcarried : filledMember? (carryId name o) "id" = (filledMember? o "id").or (some name) :=
    own_carryName (filledMember? · "id") hset
  rw [entryId, entryId, hcarried, Option.or_none]

theorem requirementKey_carryKey (h : Text.isBlank name = false) (index : Nat) :
    requirementKey (carryKey name o) none index = requirementKey o (some name) index := by
  have hset : ownKey? (setText "key" name o) = some name := by
    rw [ownKey?, filledMember?_of_lookup (by rw [lookup_setText, if_pos rfl]) h, Option.some_or]
  have hcarried : ownKey? (carryKey name o) = (ownKey? o).or (some name) :=
    own_carryName ownKey? hset
  have hkey : ∀ o name, requirementKey o name index =
      ((ownKey? o).or name).getD (requirementKeyPrefix ++ toString index) := fun _ _ => rfl
  rw [hkey, hkey, hcarried, Option.or_none]

end Members

/-! ### Collections -/

section Collections

variable {α : Type} {read : Nat → Option String → Json → Option α}

theorem readEntries_map {c c' : Option Json} {f : Option String × Json → Option String × Json}
    (hentries : entries c' = (entries c).map f)
    (hread : ∀ e ∈ entries c, ∀ index, read index (f e).1 (f e).2 = read index e.1 e.2) :
    readEntries read c' = readEntries read c := by
  rw [readEntries, readEntries, hentries, List.zipIdx_map, List.filterMap_map]
  refine List.filterMap_congr fun e he => ?_
  exact hread e.1 (List.fst_mem_of_mem_zipIdx he) e.2

/-- A reader that takes a carried name as it takes a member name, and does not see the rewriting,
does not see the listing. -/
theorem readEntries_listed {carry : String → Json → Json} {rewrite : Json → Json}
    (hcarry : ∀ index name j, Text.isBlank name = false →
      read index none (carry name j) = read index (some name) j)
    (hrewrite : ∀ index name j, read index name (rewrite j) = read index name j)
    (c : Option Json) : readEntries read (c.map (listed carry rewrite)) = readEntries read c := by
  cases c with
  | none => rfl
  | some j =>
    cases j with
    | array items =>
      refine readEntries_map (f := fun e => (e.1, rewrite e.2)) ?_ fun e _ i => hrewrite i e.1 e.2
      simp [listed, entries]
    | object o =>
      rw [Option.map_some, listed]
      split
      · next hfilled =>
        refine readEntries_map (f := fun e => (none, carry (e.1.getD "") (rewrite e.2))) ?_ ?_
        · simp [entries]
        · intro e he i
          obtain ⟨⟨name, j⟩, hmem, rfl⟩ := List.mem_map.mp he
          -- Only a name that is not blank is found again where it was written.
          have hname : Text.isBlank name = false := by
            simpa using List.all_eq_true.mp hfilled _ hmem
          exact (hcarry i name (rewrite j) hname).trans (hrewrite i (some name) j)
      · refine readEntries_map (f := fun e => (e.1, rewrite e.2)) ?_ fun e _ i =>
          hrewrite i e.1 e.2
        simp [entries]
    | _ => rfl

theorem map_listed_of_not_isCollection {carry : String → Json → Json} {rewrite : Json → Json}
    {c : Option Json} (h : isCollection c = false) : c.map (listed carry rewrite) = c := by
  rcases c with _ | (_ | _ | _ | _ | _ | _)
  case some.array => cases h
  case some.object => cases h
  all_goals rfl

theorem isCollection_listed (carry : String → Json → Json) (rewrite : Json → Json)
    (c : Option Json) : isCollection (c.map (listed carry rewrite)) = isCollection c := by
  cases h : isCollection c with
  | false => rw [map_listed_of_not_isCollection h, h]
  | true =>
    rcases c with _ | (_ | _ | _ | _ | items | o)
    case some.array => rfl
    case some.object =>
      rw [Option.map_some, listed]
      split <;> rfl
    all_goals cases h

end Collections

/-! ### Criteria, checks and requirements -/

theorem criterion_carried {name : String} (h : Text.isBlank name = false) (index : Nat) (j : Json) :
    criterion index none (carriedCriterion name j) = criterion index (some name) j := by
  cases j with
  | object o =>
    have hother : ∀ n, n ≠ "id" → (carryId name o).lookup n = o.lookup n :=
      fun _ => lookup_carryName
    simp only [carriedCriterion, criterion, entryId_carryId h,
      textMember_congr (hother "requirement" (by decide)),
      textMember_congr (hother "failureStatementTemplate" (by decide))]
  | _ =>
    simp only [carriedCriterion, criterion, entryId_of_lookup List.lookup_cons_self h]
    rfl

theorem readEntries_listedCriteria (c : Option Json) :
    readEntries (fun i name j => some (criterion i name j)) (c.map listedCriteria) =
      readEntries (fun i name j => some (criterion i name j)) c :=
  readEntries_listed (fun i _ j h => congrArg some (criterion_carried h i j)) (fun _ _ _ => rfl) c

/-- What is read of a check, apart from its id and criteria, is its condition and logic. -/
theorem check?_congr {o o' : Members} {name name' : Option String} {index : Nat}
    (hid : entryId o' name' index = entryId o name index)
    (hcriteria : readEntries (fun i name j => some (criterion i name j))
        (renamedMember? o' "passCriteria" "criteria") =
      readEntries (fun i name j => some (criterion i name j))
        (renamedMember? o "passCriteria" "criteria"))
    (hother : ∀ n ∈ ["condition", "logic"], o'.lookup n = o.lookup n) :
    check? index name' (.object o') = check? index name (.object o) := by
  rw [check?, check?, hid, hcriteria, textMember_congr (hother "condition" (by decide)),
    wordMember_congr (hother "logic" (by decide))]

theorem check?_carried {name : String} (h : Text.isBlank name = false) (index : Nat) (j : Json) :
    check? index none (rewriteObject (carryId name) j) = check? index (some name) j := by
  cases j with
  | object o =>
    have hother : ∀ n, n ≠ "id" → (carryId name o).lookup n = o.lookup n :=
      fun _ => lookup_carryName
    refine check?_congr (entryId_carryId h index) ?_ fun n hn => hother n ?_
    · rw [renamedMember?_congr (hother "passCriteria" (by decide)) (hother "criteria" (by decide))]
    · rintro rfl
      exact absurd hn (by decide)
  | _ => rfl

theorem check?_listed (index : Nat) (name : Option String) (j : Json) :
    check? index name (listedCheck j) = check? index name j := by
  cases j with
  | object o =>
    have hother : ∀ n, n ∉ ["passCriteria", "criteria"] →
        (rewriteMembers ["passCriteria", "criteria"] listedCriteria o).lookup n = o.lookup n :=
      fun n hn => by rw [lookup_rewriteMembers, if_neg hn]
    refine check?_congr ?_ ?_ fun n hn => hother n ?_
    · rw [entryId, entryId, filledMember?_congr (hother "id" (by decide))]
    · rw [renamedMember?_rewriteMembers, readEntries_listedCriteria]
    · revert n
      decide
  | _ => rfl

theorem readEntries_listedChecks (c : Option Json) :
    readEntries check? (c.map listedChecks) = readEntries check? c :=
  readEntries_listed (fun i _ j h => check?_carried h i j) check?_listed c

/-- What is read of a requirement, apart from its key and checks. -/
theorem requirement?_congr {o o' : Members} {name name' : Option String} {index : Nat}
    (hkey : requirementKey o' name' index = requirementKey o name index)
    (hchecks : readEntries check? (renamedMember? o' "checks" "outline") =
      readEntries check? (renamedMember? o "checks" "outline"))
    (hother : ∀ n ∈ ["id", "title", "standardReference", "contentType", "infoBlocks", "metadata"],
      o'.lookup n = o.lookup n) :
    requirement? index name' (.object o') = requirement? index name (.object o) := by
  rw [requirement?, requirement?, hkey, hchecks, textMember_congr (hother "id" (by decide)),
    textMember_congr (hother "title" (by decide)), hother "standardReference" (by decide),
    hother "contentType" (by decide), hother "infoBlocks" (by decide),
    hother "metadata" (by decide)]

theorem requirement?_carried {name : String} (h : Text.isBlank name = false) (index : Nat)
    (j : Json) : requirement? index none (rewriteObject (carryKey name) j) =
      requirement? index (some name) j := by
  cases j with
  | object o =>
    have hother : ∀ n, n ≠ "key" → (carryKey name o).lookup n = o.lookup n :=
      fun _ => lookup_carryName
    refine requirement?_congr (requirementKey_carryKey h index) ?_ fun n hn => hother n ?_
    · rw [renamedMember?_congr (hother "checks" (by decide)) (hother "outline" (by decide))]
    · rintro rfl
      exact absurd hn (by decide)
  | _ => rfl

theorem requirement?_listed (index : Nat) (name : Option String) (j : Json) :
    requirement? index name (listedRequirement j) = requirement? index name j := by
  cases j with
  | object o =>
    have hother : ∀ n, n ∉ ["checks", "outline"] →
        (rewriteMembers ["checks", "outline"] listedChecks o).lookup n = o.lookup n :=
      fun n hn => by rw [lookup_rewriteMembers, if_neg hn]
    refine requirement?_congr ?_ ?_ fun n hn => hother n ?_
    · rw [requirementKey, requirementKey, filledMember?_congr (hother "key" (by decide)),
        filledMember?_congr (hother "id" (by decide))]
    · rw [renamedMember?_rewriteMembers, readEntries_listedChecks]
    · revert n
      decide
  | _ => rfl

theorem readEntries_listedRequirements (c : Option Json) :
    readEntries requirement? (c.map listedRequirements) = readEntries requirement? c :=
  readEntries_listed (fun i _ j h => requirement?_carried h i j) requirement?_listed c

/-! ### Rule files -/

theorem decodeRuleFile_listed (j : Json) :
    decodeRuleFile (listedRuleFile j) = decodeRuleFile j := by
  cases j with
  | object o =>
    have hmetadata : (rewriteMembers ["requirements"] listedRequirements o).lookup "metadata" =
        o.lookup "metadata" := by
      rw [lookup_rewriteMembers, if_neg (by decide)]
    have hrequirements : (rewriteMembers ["requirements"] listedRequirements o).lookup
        "requirements" = (o.lookup "requirements").map listedRequirements := by
      rw [lookup_rewriteMembers, if_pos (by decide)]
    have hcollection : isCollection ((o.lookup "requirements").map listedRequirements) =
        isCollection (o.lookup "requirements") := isCollection_listed _ _ _
    simp only [listedRuleFile, rewriteObject, decodeRuleFile, hmetadata, hrequirements, hcollection,
      readEntries_listedRequirements]
    split
    · rfl
    · next hnone =>
      rw [listedRequirements, map_listed_of_not_isCollection (eq_false_of_ne_true hnone)]
  | _ => rfl

/-- Listing the collections of a rule file changes nothing of what is read from it, whether the file
is valid or not. It is the same rule file, or the same error. -/
theorem ruleFile_listed (j : Json) : decodeRuleFile (listedRuleFile j) = decodeRuleFile j ∧
    ruleFile (listedRuleFile j) = ruleFile j := by
  refine ⟨decodeRuleFile_listed j, ?_⟩
  rw [ruleFile, ruleFile, decodeRuleFile_listed]

example : listedRuleFile (.object [("requirements", .object
      [("1.1", .object [("checks", .object
        [("images", .object [("criteria", .object [("alt", .text "Images have a text")])])])])])]) =
    .object [("requirements", .array
      [.object [("key", .text "1.1"), ("checks", .array
        [.object [("id", .text "images"), ("criteria", .array
          [.object [("id", .text "alt"), ("requirement", .text "Images have a text")]])]])]])] :=
  rfl

end Conformance.Loading
