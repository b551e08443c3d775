import Conformance.Json

/-! TOML documents as trees. A table remembers how it came about, because that decides whether it
may be extended: a table with a header of its own may not be defined again, one that a dotted key
implied may get further dotted keys, and an inline table is closed. -/

namespace Conformance.Toml

/-- How a table came about. -/
inductive Origin
  /-- Defined by its own header. -/
  | header
  /-- Implied by the header of a table below it. -/
  | implied
  /-- Implied by a dotted key. -/
  | dotted
  /-- Written between braces. -/
  | inline
deriving DecidableEq, Repr

inductive Node
  | text (value : String)
  | boolean (value : Bool)
  | integer (value : Int)
  | real (value : Binary64)
  /-- A date or time; nothing depends on which. -/
  | date
  | array (items : List Node)
  | table (origin : Origin) (entries : List (String × Node))
  /-- An array of tables, each under its own header. The last one stands first, since headers below
  it belong to it. -/
  | tables (last : List (String × Node)) (earlier : List (List (String × Node)))
deriving Repr, Inhabited

abbrev Entries := List (String × Node)

/-- The entries with `key` set to `value`, in its place or at the end. -/
def setEntry (key : String) (value : Node) : Entries → Entries
  | [] => [(key, value)]
  | e :: rest => if e.1 = key then (key, value) :: rest else e :: setEntry key value rest

/-- What to do with a table of some origin; nothing if it is not allowed. -/
abbrev TableEdit := Origin → Entries → Option (Origin × Entries)

/-- Applies an edit to the table at a path. Tables on the way are made if they are missing, implied
by a dotted key or by a header. A dotted key may not go through a table with its own header; no
path goes through an inline table or a value; a path through an array of tables goes to its last
one. -/
def editAt (dotted : Bool) : List String → TableEdit → TableEdit
  | [], edit, origin, entries => edit origin entries
  | key :: path, edit, origin, entries =>
    match entries.lookup key with
    | none => do
      let made := if dotted then Origin.dotted else .implied
      let (o, es) ← editAt dotted path edit made []
      return (origin, setEntry key (.table o es) entries)
    | some (.table o es) =>
      if o = .inline || (dotted && o = .header) then none
      else do
        let (o, es) ← editAt dotted path edit o es
        return (origin, setEntry key (.table o es) entries)
    | some (.tables last earlier) => do
      let (_, last) ← editAt dotted path edit .header last
      return (origin, setEntry key (.tables last earlier) entries)
    | some _ => none

/-- Adds a key with its value. A table reached by a dotted key must be made by dotted keys too, and
no key is defined twice. -/
def addValue (path : List String) (key : String) (value : Node) : TableEdit :=
  editAt true path fun origin entries =>
    if !path.isEmpty && origin != .dotted then none
    else if (entries.lookup key).isSome then none
    else some (origin, entries ++ [(key, value)])

/-- Opens the table of a header. One that a header below it implied may still be defined. -/
def openTable (key : String) : TableEdit := fun origin entries =>
  match entries.lookup key with
  | none => some (origin, entries ++ [(key, .table .header [])])
  | some (.table .implied es) => some (origin, setEntry key (.table .header es) entries)
  | some _ => none

/-- Opens the next table of an array of tables. -/
def openElement (key : String) : TableEdit := fun origin entries =>
  match entries.lookup key with
  | none => some (origin, entries ++ [(key, .tables [] [])])
  | some (.tables last earlier) =>
    some (origin, setEntry key (.tables [] (last :: earlier)) entries)
  | some _ => none

mutual

/-- The tree as a JSON value. A date becomes an object of its own, which has no member that any
record knows. -/
def Node.toJson : Node → Json
  | .text s => .text s
  | .boolean b => .boolean b
  | .integer n => .number (.integer n)
  | .real x => .number (.real x)
  | .date => .object [("date", .null)]
  | .array items => .array (itemsToJson items)
  | .table _ entries => .object (entriesToJson entries)
  | .tables last earlier =>
    .array ((tablesToJson earlier).reverse ++ [.object (entriesToJson last)])

def itemsToJson : List Node → List Json
  | [] => []
  | n :: rest => n.toJson :: itemsToJson rest

def entriesToJson : Entries → List (String × Json)
  | [] => []
  | (key, n) :: rest => (key, n.toJson) :: entriesToJson rest

def tablesToJson : List Entries → List Json
  | [] => []
  | t :: rest => .object (entriesToJson t) :: tablesToJson rest

end

end Conformance.Toml
