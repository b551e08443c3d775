import Conformance.Journal
import Conformance.Loading.Audit

/-! The events of reading stored documents: what is skipped, what is renamed, and what a rule file
came to. -/

namespace Conformance.Journal

open Loading

/-- The warning about an entry that is skipped. -/
def skipped (what : String) (index : Nat) : Event where
  level := .warn
  message := "skipping " ++ what ++ " that is not an object"
  fields := [("index", Json.natural index)]

def checkEntry (index : Nat) : Json → List Event
  | .object _ => []
  | _ => [skipped "check" index]

def requirementEntry (index : Nat) : Json → List Event
  | .object o =>
    (entries (renamedMember? o "checks" "outline")).zipIdx.flatMap fun ((_, j), i) =>
      checkEntry i j
  | _ => [skipped "requirement" index]

/-- The events of reading a rule file, valid or not. -/
def decodeRuleFile (j : Json) : List Event :=
  match Loading.decodeRuleFile j with
  | .error _ => []
  | .ok f =>
    ((entries (j.member? "requirements")).zipIdx.flatMap fun ((_, entry), i) =>
      requirementEntry i entry) ++
    [{ level := .debug
       message := "normalized rule file"
       fields := [("requirements", Json.natural f.requirements.length),
         ("version", .text f.version)] }]

/-- The warnings about the keys that are renamed, from position `index` on. -/
def renamedKeys (index : Nat) (used : List String) : List Requirement → List Event
  | [] => []
  | r :: rest =>
    let key := RuleFile.uniqueKey used r.key index
    let later := renamedKeys (index + 1) (key :: used) rest
    if used.contains r.key then
      { level := .warn
        message := "duplicate requirement key in stored rule file"
        fields := [("key", .text r.key), ("renamed", .text key)] } :: later
    else later

/-- The events of reading an audit. -/
def loadAudit : Json → List Event
  | .object o =>
    match renamedMember? o "ruleFileContent" "ruleFile" with
    | none => []
    | some j =>
      decodeRuleFile j ++
        match Loading.decodeRuleFile j with
        | .ok f => renamedKeys 0 [] f.requirements
        | .error _ => []
  | _ => []

end Conformance.Journal
