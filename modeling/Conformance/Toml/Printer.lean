import Conformance.Toml.Quoted

/-! The writer of text values in TOML. Of the four ways of quoting it takes the first that needs no
escapes, and falls back on double quotes with escapes. -/

namespace Conformance.Toml

/-- A way of quoting a text. -/
inductive Quoting
  | basic
  | literal
  | multilineBasic
  | multilineLiteral
deriving DecidableEq, Repr

namespace Quoting

/-- Whether `count` of the character `q` stand in a row. `run` counts those just before. -/
def hasRun (q : Char) (count : Nat) (run : Nat) : List Char → Bool
  | [] => count ≤ run
  | c :: rest => count ≤ run || hasRun q count (if c = q then run + 1 else 0) rest

/-- The way a text is quoted. -/
def choose (cs : List Char) : Quoting :=
  let control := cs.any isControl
  let newline := cs.contains '\n'
  let backslash := cs.contains '\\'
  if !control && !newline && !backslash && !cs.contains '"' then .basic
  else if !control && !newline && !cs.contains '\x27' then .literal
  else if !control && !backslash && !hasRun '"' 3 0 cs then .multilineBasic
  else if !control && !hasRun '\x27' 3 0 cs then .multilineLiteral
  else if newline then .multilineBasic
  else .basic

end Quoting

/-- The upper-case hexadecimal digit of a number below 16. -/
def upperHexDigit (n : Nat) : Char := "0123456789ABCDEF".toList.getD n '0'

/-- A control character or backslash between double quotes. -/
def escapedControl (c : Char) : List Char :=
  if c = '\x08' then ['\\', 'b']
  else if c = '\x0c' then ['\\', 'f']
  else if c = '\r' then ['\\', 'r']
  else if c = '\\' then ['\\', '\\']
  else if isControl c then
    ['\\', 'u', '0', '0', upperHexDigit (c.toNat / 16), upperHexDigit (c.toNat % 16)]
  else [c]

/-- A character between double quotes on one line. -/
def escapedBasic (c : Char) : List Char :=
  if c = '"' then ['\\', '"']
  else if c = '\n' then ['\\', 'n']
  else if c = '\t' then ['\\', 't']
  else escapedControl c

/-- The characters between three double quotes: of quotes in a row every third is escaped. `run`
counts the quotes just before. -/
def escapedMultiline (run : Nat) : List Char → List Char
  | [] => []
  | c :: rest =>
    if c = '"' then
      if run = 2 then '\\' :: '"' :: escapedMultiline 0 rest
      else '"' :: escapedMultiline (run + 1) rest
    else if c = '\n' then '\n' :: escapedMultiline 0 rest
    else if c = '\t' then '\\' :: 't' :: escapedMultiline 0 rest
    else escapedControl c ++ escapedMultiline 0 rest

/-- A text in the given way of quoting. The forms over several lines begin with a line break if the
text has one, since a reader drops it. -/
def Quoting.write (q : Quoting) (cs : List Char) : List Char :=
  let opening := if cs.contains '\n' then ['\n'] else []
  match q with
  | .basic => '"' :: cs.flatMap escapedBasic ++ ['"']
  | .literal => '\x27' :: cs ++ ['\x27']
  | .multilineBasic =>
    '"' :: '"' :: '"' :: opening ++ escapedMultiline 0 cs ++ ['"', '"', '"']
  | .multilineLiteral =>
    '\x27' :: '\x27' :: '\x27' :: opening ++ cs ++ ['\x27', '\x27', '\x27']

/-- A text as a TOML value. -/
def printText (s : String) : String :=
  String.ofList ((Quoting.choose s.toList).write s.toList)

end Conformance.Toml
