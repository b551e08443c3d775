import Conformance.Loading

/-! Reading stored rule files leniently. Collections may be arrays or objects with the ids as member
names; members may carry former names. A document fails only if it is no object or has no
collection of requirements. -/

namespace Conformance.Loading

/-- An id from the entry itself, else from its member name, else from its position. -/
def entryId (o : Members) (name : Option String) (index : Nat) : String :=
  ((filledMember? o "id").or name).getD (toString (index + 1))

/-- A term of a vocabulary: an object, or just the text of its name. -/
def term? (name : Option String) : Json → Option Term
  | .object o => ((filledMember? o "id").or name).map fun id => { id, name := textMember o "name" }
  | j => (asText? j).map fun text => { id := name.getD text, name := text }

def terms (collection : Option Json) : List Term :=
  (entries collection).filterMap fun (name, j) => term? name j

/-- A sample category: a term, with sample types if it is an object. -/
def category? (name : Option String) (j : Json) : Option SampleCategory :=
  (term? name j).map fun t =>
    { id := t.id, name := t.name, sampleTypes := terms (j.member? "sampleTypes") }

/-- The order of info blocks in each view. -/
def blockOrders : Option Json → KeyedMap (List String)
  | some (.object o) => .ofList (o.map fun (view, order) => (view, idList (some order)))
  | _ => ∅

/-- The content-type vocabulary, which used to be a member of `vocabularies`. -/
def contentTypes (o : Members) : Option Json :=
  (o.lookup "contentTypes").or ((o.lookup "vocabularies").bind (Json.member? "contentTypes"))

def metadata : Option Json → RuleFileMetadata
  | some (.object o) =>
    { title := textMember o "title"
      version := textMember o "version"
      language := textMember o "language"
      contentTypes := terms (contentTypes o)
      sampleCategories :=
        (entries (o.lookup "sampleCategories")).filterMap fun (name, j) => category? name j
      blockOrders := blockOrders (o.lookup "blockOrders") }
  | _ => {}

/-- A criterion: an object, or just its text. -/
def criterion (index : Nat) (name : Option String) : Json → Criterion
  | .object o =>
    { id := entryId o name index
      requirement := textMember o "requirement"
      failureTemplate := textMember o "failureStatementTemplate" }
  | j => { id := entryId [] name index, requirement := (asText? j).getD "" }

/-- The entries of a collection read one by one, each with its position. -/
def readEntries {α : Type} (read : Nat → Option String → Json → Option α)
    (collection : Option Json) : List α :=
  (entries collection).zipIdx.filterMap fun ((name, j), index) => read index name j

/-- A check; anything but an object is skipped. -/
def check? (index : Nat) (name : Option String) : Json → Option Check
  | .object o =>
    some
      { id := entryId o name index
        condition := textMember o "condition"
        logic := (Logic.ofText? (wordMember o "logic")).getD .all
        criteria := readEntries (fun i name j => some (criterion i name j))
          (renamedMember? o "passCriteria" "criteria") }
  | _ => none

/-- The key of a requirement: its `key`, else its `id`, else its member name, else its position. -/
def requirementKey (o : Members) (name : Option String) (index : Nat) : String :=
  (((filledMember? o "key").or (filledMember? o "id")).or name).getD
    (requirementKeyPrefix ++ toString index)

def infoBlocks : Option Json → KeyedMap String
  | some (.object o) => .ofList (o.filterMap fun (name, j) => (asText? j).map (name, ·))
  | _ => ∅

/-- A reference: a text, or an object with the text as a member. -/
def standardReference : Option Json → String
  | some (.object o) => textMember o "text"
  | some j => (asText? j).getD ""
  | none => ""

/-- A requirement; anything but an object is skipped. -/
def requirement? (index : Nat) (name : Option String) : Json → Option Requirement
  | .object o =>
    some
      { key := requirementKey o name index
        id := textMember o "id"
        title := textMember o "title"
        standardReference := standardReference (o.lookup "standardReference")
        contentTypes := idList (o.lookup "contentType")
        checks := readEntries check? (renamedMember? o "checks" "outline")
        infoBlocks := infoBlocks (o.lookup "infoBlocks")
        metadata := (o.lookup "metadata").getD .null }
  | _ => none

/-- How an error names what it found instead of requirements. -/
def kindOf : Option Json → String
  | none => "nothing"
  | some .null => "nothing"
  | some (.boolean _) => "a boolean"
  | some (.number _) => "a number"
  | some (.text _) => "a string"
  | some (.array _) => "an array"
  | some (.object _) => "an object"

/-- Whether a value can hold a collection. -/
def isCollection : Option Json → Bool
  | some (.array _) => true
  | some (.object _) => true
  | _ => false

/-- A rule file as it is stored, with keys that may be blank or repeat. -/
def decodeRuleFile : Json → Except RuleFileError RuleFile
  | .object o =>
    let requirements := o.lookup "requirements"
    if isCollection requirements then
      .ok { metadata := metadata (o.lookup "metadata")
            requirements := readEntries requirement? requirements }
    else .error (.missingRequirements (kindOf requirements))
  | _ => .error .notAnObject

/-- A rule file offered as a replacement, which must be valid. -/
def ruleFile (j : Json) : Except RuleFileError RuleFile := do
  let f ← decodeRuleFile j
  f.validate
  return f

end Conformance.Loading
