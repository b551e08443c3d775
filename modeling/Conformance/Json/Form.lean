import Conformance.Json
import Conformance.KeyedMap

/-! Types with a JSON form: how a value is written, and the strict reader of what is written. A
record is an object with its members by name, or an array of them in the order of declaration.
Unknown members are ignored, nothing is converted, and a member that is present must have its
type. -/

namespace Conformance

/-- A written form and its strict reader. -/
class JsonForm (α : Type) where
  toJson : α → Json
  ofJson? : Json → Option α

export JsonForm (toJson ofJson?)

namespace JsonForm

instance : JsonForm Json := ⟨id, some⟩

instance : JsonForm String where
  toJson := .text
  ofJson?
    | .text s => some s
    | _ => none

instance : JsonForm Bool where
  toJson := .boolean
  ofJson?
    | .boolean b => some b
    | _ => none

/-- Counts are written as integers; no other number is read as one. -/
instance : JsonForm Nat where
  toJson := Json.natural
  ofJson?
    | .number (.integer (.ofNat n)) => some n
    | _ => none

/-- An absent value is `null`. -/
instance {α : Type} [JsonForm α] : JsonForm (Option α) where
  toJson
    | none => .null
    | some a => toJson a
  ofJson?
    | .null => some none
    | j => (ofJson? j).map some

instance {α : Type} [JsonForm α] : JsonForm (List α) where
  toJson as := .array (as.map toJson)
  ofJson?
    | .array items => items.mapM ofJson?
    | _ => none

/-- A map is an object with its keys as member names. -/
instance {α : Type} [JsonForm α] : JsonForm (KeyedMap α) where
  toJson m := .object (m.entries.map fun e => (e.1, toJson e.2))
  ofJson?
    | .object members =>
      (members.mapM fun m => (ofJson? m.2).map (m.1, ·)).map KeyedMap.ofList
    | _ => none

end JsonForm

/-- A type with finitely many values, each written as its name. -/
class Named (α : Type) where
  name : α → String
  all : List α

namespace Named

variable {α : Type} [Named α]

/-- The value with this name. -/
def ofName? (s : String) : Option α := Named.all.find? fun a => name a == s

/-- A value is its name, or an object with the name as its only member and `null` in it. -/
instance (priority := low) : JsonForm α where
  toJson a := .text (name a)
  ofJson?
    | .text s => ofName? s
    | .object [(s, .null)] => ofName? s
    | _ => none

end Named

/-- What is left to read of a record: members by name, or elements in order. -/
inductive RecordSource
  | members (all : List (String × Json))
  | elements (rest : List Json)

/-- A reader of some members of a record. -/
abbrev RecordReader := StateT RecordSource Option

namespace RecordReader

variable {α : Type}

/-- The next member, `none` if it is missing. Fails if it is present with another type. -/
def member? [JsonForm α] (name : String) : RecordReader (Option α)
  | .members all =>
    match all.lookup name with
    | none => some (none, .members all)
    | some j => (ofJson? j).map fun a => (some a, .members all)
  | .elements [] => some (none, .elements [])
  | .elements (j :: rest) => (ofJson? j).map fun a => (some a, .elements rest)

/-- A member that must be present. -/
def required [JsonForm α] (name : String) : RecordReader α := do
  match ← member? name with
  | some a => pure a
  | none => failure

/-- A member with a value to take when it is missing. -/
def optional [JsonForm α] (name : String) (absent : α) : RecordReader α := do
  return (← member? name).getD absent

/-- Everything a reader does not ask for may stand in an object, and nothing in an array. -/
def finish : α × RecordSource → Option α
  | (a, .members _) => some a
  | (a, .elements []) => some a
  | (_, .elements (_ :: _)) => none

/-- Reads a whole record. -/
def run (reader : RecordReader α) : Json → Option α
  | .object members => (reader (.members members)).bind finish
  | .array items => (reader (.elements items)).bind finish
  | _ => none

/-- Reads a record of which an array may hold more than the members, after them. -/
def runLeading (reader : RecordReader α) : Json → Option α
  | .object members => (reader (.members members)).map (·.1)
  | .array items => (reader (.elements items)).map (·.1)
  | _ => none

/-- Reads a record that begins with a tag named `kind`, which selects the reader of the rest. -/
def runTagged (select : String → Option (RecordReader α)) : Json → Option α
  | .object members => do
    let .text kind ← members.lookup "kind" | none
    let reader ← select kind
    (reader (.members members)).bind finish
  | .array (.text kind :: rest) => do
    let reader ← select kind
    (reader (.elements rest)).bind finish
  | _ => none

end RecordReader
end Conformance
