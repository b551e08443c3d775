import Conformance.Blake3
import Conformance.RuleFile

/-! Content fingerprints. A requirement's fingerprint covers what decides about its results: its
content types as a set, and in order the id, condition, logic and criteria of each check. Titles,
references, info blocks and metadata are left out. Every field is hashed with its length before it
and every list with its count, so the hashed bytes determine the fields. -/

namespace Conformance.Fingerprint

/-- A count in eight bytes, the lowest first. -/
def countBytes (n : Nat) : List UInt8 :=
  (List.range 8).map fun i => UInt8.ofNat (n >>> (8 * i))

/-- A text in UTF-8 with its length in bytes before it. -/
def fieldBytes (s : String) : List UInt8 :=
  countBytes s.utf8ByteSize ++ s.toByteArray.data.toList

def digest (bytes : List UInt8) : String := Blake3.hex (Blake3.hash bytes)

/-- The content types as a set: trimmed, without blank ones, in ascending order. -/
def contentTypes (r : Requirement) : List String :=
  (KeyedMap.ofList (((r.contentTypes.map Text.trim).filter (! ·.isEmpty)).map (·, ()))).keys

/-- What is hashed of the content types. -/
def scopeBytes (r : Requirement) : List UInt8 :=
  countBytes (contentTypes r).length ++ (contentTypes r).flatMap fieldBytes

/-- The fingerprint of the content types alone. -/
def scope (r : Requirement) : String := digest (scopeBytes r)

/-- What is hashed of a criterion. -/
def criterionBytes (p : Criterion) : List UInt8 :=
  fieldBytes p.id ++ fieldBytes (Text.trim p.requirement) ++
    fieldBytes (Text.trim p.failureTemplate)

/-- What is hashed of a check. -/
def checkBytes (c : Check) : List UInt8 :=
  fieldBytes c.id ++ fieldBytes (Text.trim c.condition) ++ fieldBytes (Named.name c.logic) ++
    countBytes c.criteria.length ++ c.criteria.flatMap criterionBytes

/-- The fingerprint of one check. -/
def check (c : Check) : String := digest (checkBytes c)

/-- What is hashed of a requirement. -/
def requirementBytes (r : Requirement) : List UInt8 :=
  fieldBytes (scope r) ++ countBytes r.checks.length ++ r.checks.flatMap checkBytes

/-- The fingerprint of everything about a requirement that affects its results. -/
def requirement (r : Requirement) : String := digest (requirementBytes r)

/-- What is hashed of a requirement's place in a rule file. -/
def entryBytes (r : Requirement) : List UInt8 :=
  fieldBytes r.key ++ fieldBytes r.title ++ fieldBytes (requirement r)

/-- What is hashed of a rule file. -/
def ruleFileBytes (f : RuleFile) : List UInt8 :=
  fieldBytes f.version ++ countBytes f.requirements.length ++ f.requirements.flatMap entryBytes

/-- The identity of a rule file: its version, and the key, title and content of each requirement in
the order of declaration. -/
def ruleFile (f : RuleFile) : String := digest (ruleFileBytes f)

end Conformance.Fingerprint
