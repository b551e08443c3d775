import Conformance.Json.Form
import Conformance.Notice
import Conformance.Status
import Conformance.Text

/-! Rule files: the requirements of an audit with their checks and pass criteria, in the order of
declaration, and the vocabularies that samples draw from. -/

namespace Conformance

/-- An entry of a vocabulary: a content type or a sample type. -/
structure Term where
  id : String
  name : String := ""
deriving DecidableEq, Repr

structure SampleCategory where
  id : String
  name : String := ""
  sampleTypes : List Term := []
deriving DecidableEq, Repr

/-- The version of a rule file and its vocabularies. -/
structure RuleFileMetadata where
  title : String := ""
  version : String := ""
  language : String := ""
  contentTypes : List Term := []
  sampleCategories : List SampleCategory := []
  /-- The order of info blocks in each view, for display only. -/
  blockOrders : KeyedMap (List String) := ∅
deriving DecidableEq

/-- A single testable criterion. -/
structure Criterion where
  id : String
  requirement : String := ""
  failureTemplate : String := ""
deriving DecidableEq, Repr

/-- A condition, and the criteria that apply when it holds. -/
structure Check where
  id : String
  condition : String := ""
  logic : Logic := .all
  criteria : List Criterion := []
deriving DecidableEq, Repr

structure Requirement where
  /-- The key under which results are stored. -/
  key : String
  /-- The identifier that people use. -/
  id : String := ""
  title : String := ""
  standardReference : String := ""
  /-- The content types that the requirement is about; none of them means all. -/
  contentTypes : List String := []
  checks : List Check := []
  infoBlocks : KeyedMap String := ∅
  metadata : Json := .null

/-- A rule file, with the requirements in the order of declaration. -/
structure RuleFile where
  metadata : RuleFileMetadata := {}
  requirements : List Requirement

/-- Why a document cannot serve as the rule file of an audit. -/
inductive RuleFileError
  | notAnObject
  | missingRequirements (found : String)
  | emptyKey (index : Nat)
  | duplicateKey (key : String)
deriving DecidableEq, Repr

instance : Notice RuleFileError where
  code _ := "INVALID_RULE_FILE"
  message
    | .notAnObject => "rule file is not a JSON object"
    | .missingRequirements found =>
      "rule file has no requirements collection (found " ++ found ++ ")"
    | .emptyKey index => "requirement at position " ++ toString index ++ " has an empty key"
    | .duplicateKey key => "duplicate requirement key: " ++ key

/-- The criterion declared first under `id`. -/
def Check.criterion? (c : Check) (id : String) : Option Criterion :=
  c.criteria.find? fun p => p.id == id

namespace Requirement

/-- The check declared first under `id`. -/
def check? (r : Requirement) (id : String) : Option Check := r.checks.find? fun c => c.id == id

/-- Whether the requirement applies whatever the content. -/
def isUniversal (r : Requirement) : Bool := r.contentTypes.isEmpty

/-- The identifier to show: the `id` if there is one, else the key. -/
def displayId (r : Requirement) : String := if r.id.isEmpty then r.key else r.id

end Requirement

namespace RuleFile

/-- The requirement declared first under `key`. -/
def requirement? (f : RuleFile) (key : String) : Option Requirement :=
  f.requirements.find? fun r => r.key == key

def contains (f : RuleFile) (key : String) : Bool := (f.requirement? key).isSome

/-- The requirement keys, in the order of declaration. -/
def keys (f : RuleFile) : List String := f.requirements.map (·.key)

def version (f : RuleFile) : String := f.metadata.version

/-- The first offence among the keys from position `index` on, given the keys before. -/
def firstOffence (index : Nat) (seen : List String) : List String → Option RuleFileError
  | [] => none
  | key :: rest =>
    if Text.isBlank key then some (.emptyKey index)
    else if seen.contains key then some (.duplicateKey key)
    else firstOffence (index + 1) (key :: seen) rest

/-- Accepts a rule file whose keys can index results: none blank and no two equal. -/
def validate (f : RuleFile) : Except RuleFileError Unit :=
  match firstOffence 0 [] f.keys with
  | some e => .error e
  | none => .ok ()

end RuleFile
end Conformance
