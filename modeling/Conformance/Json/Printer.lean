import Conformance.Json

/-! The writer of JSON text, on one line. Characters outside ASCII are written as they are. -/

namespace Conformance.Json

/-- The lower-case hexadecimal digit of a number below 16. -/
def hexDigit (n : Nat) : Char := "0123456789abcdef".toList.getD n '0'

/-- A character inside a text. Control characters are escaped by their number. -/
def escaped (c : Char) : List Char :=
  if c = '"' then ['\\', '"']
  else if c = '\\' then ['\\', '\\']
  else if c = '\n' then ['\\', 'n']
  else if c.toNat < 0x20 then
    ['\\', 'u', '0', '0', hexDigit (c.toNat / 16), hexDigit (c.toNat % 16)]
  else [c]

/-- The text in quotes. -/
def quoted (s : String) : String :=
  "\"" ++ String.ofList (s.toList.flatMap escaped) ++ "\""

mutual

/-- The written form of a value. -/
def print : Json → String
  | .null => "null"
  | .boolean value => if value then "true" else "false"
  | .number value => value.text
  | .text value => quoted value
  | .array values => "[" ++ String.intercalate "," (printItems values) ++ "]"
  | .object values => "\x7b" ++ String.intercalate "," (printMembers values) ++ "\x7d"

def printItems : List Json → List String
  | [] => []
  | value :: rest => print value :: printItems rest

def printMembers : List (String × Json) → List String
  | [] => []
  | (name, value) :: rest => (quoted name ++ ":" ++ print value) :: printMembers rest

end

end Conformance.Json
