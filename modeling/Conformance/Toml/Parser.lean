import Conformance.Toml.Quoted
import Conformance.Toml.Scalar

/-! The reader of TOML documents. Readers take the characters that are left and return what they
read with the rest; nothing comes back for text that is not TOML. Values may be nested, and keys
may have parts, up to a limit of 79. -/

namespace Conformance.Toml

/-- How deeply values may be nested, and how many parts a key may have. -/
def depthLimit : Nat := 79

namespace Parser

/-- The end of a line, or of the document. -/
def lineEnd : List Char → Option (List Char)
  | [] => some []
  | cs => skipNewline? cs

/-- The characters of a comment, which holds no control characters. -/
def dropComment (cs : List Char) : List Char := cs.dropWhile isPlain

/-- What may follow on the line of a header or a value: blanks and a comment. -/
def restOfLine (cs : List Char) : Option (List Char) :=
  match skipBlanks cs with
  | '#' :: rest => lineEnd (dropComment rest)
  | rest => lineEnd rest

def isKeyChar (c : Char) : Bool := c.isAlphanum || c == '-' || c == '_'

/-- One part of a key: bare or quoted on one line. -/
def keyPart (cs : List Char) : Option (String × List Char) :=
  match cs with
  | '"' :: _ => Quoted.read.readLine cs
  | '\x27' :: _ => Quoted.read.readLine cs
  | _ =>
    let (word, rest) := cs.span isKeyChar
    if word.isEmpty then none else some (String.ofList word, rest)

/-- The parts of a key with dots between them. The last part comes separately. -/
def key : Nat → List Char → Option ((List String × String) × List Char)
  | 0, _ => none
  | limit + 1, cs => do
    let (part, rest) ← keyPart (skipBlanks cs)
    match skipBlanks rest with
    | '.' :: rest =>
      let ((path, last), rest) ← key limit rest
      return ((part :: path, last), rest)
    | rest => return (([], part), rest)

/-- Blanks, line breaks and comments inside an array; `comment` says that one is under way. -/
def skipFiller (comment : Bool) : List Char → Option (List Char)
  | [] => some []
  | '\r' :: '\n' :: rest => skipFiller false rest
  | '\n' :: rest => skipFiller false rest
  | c :: rest =>
    if comment then if isPlain c then skipFiller true rest else none
    else if isBlank c then skipFiller false rest
    else if c = '#' then skipFiller true rest
    else some (c :: rest)

/-- The items of an array up to the closing bracket. A comma may follow the last one. -/
def items (value : List Char → Option (Node × List Char)) :
    Nat → List Char → Option (List Node × List Char)
  | 0, _ => none
  | fuel + 1, cs => do
    let cs ← skipFiller false cs
    match cs with
    | ']' :: rest => return ([], rest)
    | cs =>
      let (v, rest) ← value cs
      let rest ← skipFiller false rest
      match rest with
      | ']' :: rest => return ([v], rest)
      | ',' :: rest =>
        let (vs, rest) ← items value fuel rest
        return (v :: vs, rest)
      | _ => none

/-- A key with its value after an equals sign. -/
def keyValue (value : List Char → Option (Node × List Char)) (cs : List Char) :
    Option ((List String × String) × Node × List Char) := do
  let (k, rest) ← key depthLimit cs
  match rest with
  | '=' :: rest =>
    let (v, rest) ← value (skipBlanks rest)
    return (k, v, rest)
  | _ => none

/-- The members of an inline table from the first one up to the closing brace, added to the
entries. -/
def members (value : List Char → Option (Node × List Char)) :
    Nat → Entries → List Char → Option (Entries × List Char)
  | 0, _, _ => none
  | fuel + 1, entries, cs => do
    let ((path, last), v, rest) ← keyValue value cs
    let (_, entries) ← addValue path last v .inline entries
    match skipBlanks rest with
    | '\x7d' :: rest => return (entries, rest)
    | ',' :: rest => members value fuel entries rest
    | _ => none

/-- A value, nested at most `depth` levels deep. -/
def value : Nat → List Char → Option (Node × List Char)
  | 0, cs =>
    match cs with
    | '"' :: _ => (Quoted.read cs).map fun (s, rest) => (.text s, rest)
    | '\x27' :: _ => (Quoted.read cs).map fun (s, rest) => (.text s, rest)
    | _ => Scalar.read cs
  | depth + 1, cs =>
    match cs with
    | '"' :: _ => (Quoted.read cs).map fun (s, rest) => (.text s, rest)
    | '\x27' :: _ => (Quoted.read cs).map fun (s, rest) => (.text s, rest)
    | '[' :: rest =>
      (items (value depth) (rest.length + 1) rest).map fun (vs, rest) => (.array vs, rest)
    | '\x7b' :: rest =>
      match skipBlanks rest with
      | '\x7d' :: rest => some (.table .inline [], rest)
      | rest =>
        (members (value depth) (rest.length + 1) [] rest).map fun (entries, rest) =>
          (.table .inline entries, rest)
    | _ => Scalar.read cs

/-- A document under way: its entries so far, and the path of the table that keys go to. -/
structure State where
  entries : Entries := []
  path : List String := []

/-- The state after a header. -/
def State.openAt (s : State) (path : List String) (last : String) (edit : String → TableEdit) :
    Option State := do
  let (_, entries) ← editAt false path (edit last) .header s.entries
  return { entries, path := path ++ [last] }

/-- The state after a key with its value. -/
def State.add (s : State) (path : List String) (last : String) (v : Node) : Option State := do
  let (_, entries) ← editAt false s.path (addValue path last v) .header s.entries
  return { s with entries }

/-- The header of an array element, after its two opening brackets. -/
def elementHeader (s : State) (cs : List Char) : Option (State × List Char) := do
  let ((path, last), rest) ← key depthLimit cs
  match rest with
  | ']' :: ']' :: rest =>
    let rest ← restOfLine rest
    return (← s.openAt path last openElement, rest)
  | _ => none

/-- The header of a table, after its opening bracket. -/
def tableHeader (s : State) (cs : List Char) : Option (State × List Char) := do
  let ((path, last), rest) ← key depthLimit cs
  match rest with
  | ']' :: rest =>
    let rest ← restOfLine rest
    return (← s.openAt path last openTable, rest)
  | _ => none

/-- A line with a key and its value. -/
def entryLine (s : State) (cs : List Char) : Option (State × List Char) := do
  let ((path, last), v, rest) ← keyValue (value depthLimit) cs
  let rest ← restOfLine rest
  return (← s.add path last v, rest)

/-- The lines of a document. `fuel` bounds their number. -/
def lines : Nat → State → List Char → Option Entries
  | 0, _, _ => none
  | fuel + 1, s, cs =>
    match skipBlanks cs with
    | [] => some s.entries
    | '#' :: rest => (lineEnd (dropComment rest)).bind (lines fuel s)
    | '\n' :: rest => lines fuel s rest
    | '\r' :: '\n' :: rest => lines fuel s rest
    | '[' :: '[' :: rest => (elementHeader s rest).bind fun (s, rest) => lines fuel s rest
    | '[' :: rest => (tableHeader s rest).bind fun (s, rest) => lines fuel s rest
    | rest => (entryLine s rest).bind fun (s, rest) => lines fuel s rest

end Parser

/-- The entries of a document. A byte order mark at its front is skipped. -/
def parse? (source : String) : Option Entries :=
  let cs := match source.toList with
    | '\ufeff' :: rest => rest
    | cs => cs
  Parser.lines (cs.length + 1) {} cs

end Conformance.Toml
