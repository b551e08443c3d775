import Conformance.Audit
import Conformance.Json.Form

/-! Reading stored documents leniently. Audit files are long-lived and have been written in several
shapes; whatever is absent or of another type becomes its default. This module holds the readers
of single members, which all documents share. -/

namespace Conformance.Loading

/-- What the key of a requirement begins with that has none of its own. -/
def requirementKeyPrefix : String := "requirement-"

/-- What the id of a sample begins with that has none of its own. -/
def sampleIdPrefix : String := "sample-"

/-- The members of an object. -/
abbrev Members := List (String × Json)

/-- Texts and numbers both count as text, since old files use numbers as ids. -/
def asText? : Json → Option String
  | .text s => some s
  | .number n => some n.text
  | _ => none

/-- The text of a member; empty if there is none. -/
def textMember (o : Members) (name : String) : String :=
  ((o.lookup name).bind asText?).getD ""

/-- The text of a member, unless it is blank. -/
def filledMember? (o : Members) (name : String) : Option String :=
  ((o.lookup name).bind asText?).filter (!Text.isBlank ·)

/-- The member under `name`, or if that is absent the one under its former name. -/
def renamedMember? (o : Members) (name former : String) : Option Json :=
  (o.lookup name).or (o.lookup former)

/-- The texts in an array that are not blank. -/
def idList : Option Json → List String
  | some (.array items) => (items.filterMap asText?).filter (!Text.isBlank ·)
  | _ => []

/-- The entries of a collection. One stored as an object gives each entry its member name. -/
def entries : Option Json → List (Option String × Json)
  | some (.array items) => items.map (none, ·)
  | some (.object o) => o.map fun (name, j) => (some name, j)
  | _ => []

/-- The members of an object that are objects themselves. -/
def objectEntries : Option Json → List (String × Members)
  | some (.object o) => o.filterMap fun (name, j) =>
    match j with
    | .object entry => some (name, entry)
    | _ => none
  | _ => []

/-- A flag; false unless it is stored as true. -/
def flagMember (o : Members) (name : String) : Bool :=
  match o.lookup name with
  | some (.boolean b) => b
  | _ => false

/-- The text of a member that is a text, without converting numbers. -/
def wordMember (o : Members) (name : String) : String :=
  match o.lookup name with
  | some (.text s) => s
  | _ => ""

end Conformance.Loading
