import Conformance.Binary64.Shortest

/-! JSON values. Objects keep their members in the order in which they are written, because
collections stored as objects are read in that order. A number is an integer only if it is written
as one. -/

namespace Conformance

/-- A number: an integer, or a binary64 value for every other spelling. -/
inductive Json.Number
  | integer (value : Int)
  | real (value : Binary64)
deriving DecidableEq, Repr

inductive Json
  | null
  | boolean (value : Bool)
  | number (value : Json.Number)
  | text (value : String)
  | array (items : List Json)
  | object (members : List (String × Json))
deriving Repr, Inhabited

namespace Json

/-- The decimal text of a number. -/
def Number.text : Number → String
  | .integer value => toString value
  | .real value => value.text

/-- The member `name` of an object; nothing for any other value. -/
def member? (name : String) : Json → Option Json
  | .object members => members.lookup name
  | _ => none

def natural (n : Nat) : Json := .number (.integer n)

def texts (values : List String) : Json := .array (values.map .text)

end Json
end Conformance
