import Conformance.Audit.Form
import Conformance.Loading.RuleFile
import Conformance.Loading.Sample

/-! Reading stored audits leniently. An existing audit loads whatever its keys: repeated requirement
keys are renamed instead of refused, and samples without an id get one from their position. -/

namespace Conformance

namespace RuleFile

/-- A key with a number behind it. -/
def numberedKey (key : String) (n : Nat) : String := key ++ "-" ++ toString n

/-- The key with the least number from `index` on that is not in use. One of the first
`used.length + 1` numbers is free, since they give different keys. -/
def freshKey (used : List String) (key : String) (index : Nat) : String :=
  let numbers := (List.range (used.length + 1)).map (index + ·)
  numberedKey key ((numbers.find? fun n => !used.contains (numberedKey key n)).getD index)

/-- The key that a requirement at position `index` gets, given the keys before it. -/
def uniqueKey (used : List String) (key : String) (index : Nat) : String :=
  if used.contains key then freshKey used key index else key

/-- The requirements from position `index` on with repeated keys renamed. -/
def withUniqueKeys (index : Nat) (used : List String) : List Requirement → List Requirement
  | [] => []
  | r :: rest =>
    let key := uniqueKey used r.key index
    { r with key } :: withUniqueKeys (index + 1) (key :: used) rest

/-- The rule file with repeated keys renamed. The first requirement under a key keeps it, and so the
results that are stored under it, unless a repeat in front of it has been renamed to that key. -/
def makeKeysUnique (f : RuleFile) : RuleFile :=
  { f with requirements := withUniqueKeys 0 [] f.requirements }

end RuleFile

namespace Loading

/-- The sample at a position; without an id of its own it is numbered. -/
def sampleAt (index : Nat) (j : Json) : Sample :=
  let s := sample j
  if Text.isBlank s.id then { s with id := sampleIdPrefix ++ toString (index + 1) } else s

def samples : Option Json → List Sample
  | some (.array items) => items.zipIdx.map fun (j, index) => sampleAt index j
  | _ => []

/-- Tombstones that are not complete are dropped. -/
def tombstones : Option Json → List Tombstone
  | some (.array items) => items.filterMap ofJson?
  | _ => []

/-- The stored rule file of an audit, with its keys as they are stored. -/
def decodeAuditRuleFile : Json → Except RuleFileError RuleFile
  | .object o =>
    match renamedMember? o "ruleFileContent" "ruleFile" with
    | none => .error (.missingRequirements "no rule file")
    | some j => decodeRuleFile j
  | _ => .error .notAnObject

/-- A stored audit. -/
def audit (j : Json) : Except RuleFileError Audit := do
  let f ← decodeAuditRuleFile j
  return {
    ruleFile := f.makeKeysUnique
    samples := samples (j.member? "samples")
    tombstones := tombstones (j.member? "tombstones") }

end Loading
end Conformance
