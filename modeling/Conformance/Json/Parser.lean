import Conformance.Json.Numeral

/-! The reader of JSON text. Each reader takes the characters that are left and returns its result
with the rest; nothing comes back for text that is not JSON. -/

namespace Conformance.Json

namespace Parser

/-- What a reader returns: a value and the characters after it. -/
abbrev Parsed (α : Type) := Option (α × List Char)

def isBlank (c : Char) : Bool := c == ' ' || c == '\n' || c == '\r' || c == '\t'

def skipBlanks (cs : List Char) : List Char := cs.dropWhile isBlank

/-- The characters after `expected`, if they begin with it. -/
def skipWord : List Char → List Char → Option (List Char)
  | [], cs => some cs
  | e :: expected, c :: cs => if e = c then skipWord expected cs else none
  | _ :: _, [] => none

/-- The character of one UTF-16 unit, or of a high unit followed by an escaped low one. -/
def unitChar (unit : Nat) (cs : List Char) : Parsed Char :=
  if unit < 0xD800 || 0xDFFF < unit then some (Char.ofNat unit, cs)
  else if unit < 0xDC00 then
    match cs with
    | '\\' :: 'u' :: a :: b :: c :: d :: rest =>
      (Text.digitsValue? 16 [a, b, c, d]).bind fun low =>
        if 0xDC00 ≤ low && low ≤ 0xDFFF then
          some (Char.ofNat (0x10000 + (unit - 0xD800) * 0x400 + (low - 0xDC00)), rest)
        else none
    | _ => none
  else none

/-- The character that an escape stands for, from the characters after the backslash. -/
def escape : List Char → Parsed Char
  | '"' :: rest => some ('"', rest)
  | '\\' :: rest => some ('\\', rest)
  | '/' :: rest => some ('/', rest)
  | 'b' :: rest => some ('\x08', rest)
  | 'f' :: rest => some ('\x0c', rest)
  | 'n' :: rest => some ('\n', rest)
  | 'r' :: rest => some ('\r', rest)
  | 't' :: rest => some ('\t', rest)
  | 'u' :: a :: b :: c :: d :: rest =>
    (Text.digitsValue? 16 [a, b, c, d]).bind fun unit => unitChar unit rest
  | _ => none

/-- A text up to its closing quote. `read` holds the characters so far, last first. -/
def stringBody : Nat → List Char → List Char → Parsed String
  | 0, _, _ => none
  | _ + 1, _, [] => none
  | fuel + 1, read, c :: rest =>
    if c = '"' then some (String.ofList read.reverse, rest)
    else if c = '\\' then (escape rest).bind fun (e, rest) => stringBody fuel (e :: read) rest
    else if c.toNat < 0x20 then none
    else stringBody fuel (c :: read) rest

/-- The longest run of decimal digits. -/
def digits (cs : List Char) : List Char × List Char := cs.span Char.isDigit

/-- The exponent part, if there is one. -/
def exponentPart (cs : List Char) : Parsed (Option Int) :=
  match cs with
  | c :: rest =>
    if c = 'e' || c = 'E' then
      let (negative, rest) := match rest with
        | '-' :: rest => (true, rest)
        | '+' :: rest => (false, rest)
        | rest => (false, rest)
      let (ds, rest) := digits rest
      if ds.isEmpty then none
      else
        let value := Int.ofNat (Text.digitsValue 10 ds)
        some (some (if negative then -value else value), rest)
    else some (none, cs)
  | [] => some (none, cs)

/-- The fraction digits, if there are any. -/
def fractionPart (cs : List Char) : Parsed (Option (List Char)) :=
  match cs with
  | '.' :: rest =>
    let (ds, rest) := digits rest
    if ds.isEmpty then none else some (some ds, rest)
  | _ => some (none, cs)

/-- A number. Zero may begin only the digits of zero. -/
def number (cs : List Char) : Parsed Number :=
  let (negative, cs) := match cs with
    | '-' :: rest => (true, rest)
    | cs => (false, cs)
  let (whole, cs) := digits cs
  if whole.isEmpty || (whole.head? == some '0' && 1 < whole.length) then none
  else
    (fractionPart cs).bind fun (fraction, cs) =>
      (exponentPart cs).bind fun (exponent, cs) =>
        (Numeral.mk negative whole fraction exponent).number?.map (·, cs)

mutual

/-- A value. `fuel` bounds the number of steps; the length of the text suffices. -/
def value : Nat → List Char → Parsed Json
  | 0, _ => none
  | fuel + 1, cs =>
    match skipBlanks cs with
    | '\x7b' :: rest =>
      match skipBlanks rest with
      | '\x7d' :: rest => some (.object [], rest)
      | rest => (members fuel rest).map fun (ms, rest) => (.object ms, rest)
    | '[' :: rest =>
      match skipBlanks rest with
      | ']' :: rest => some (.array [], rest)
      | rest => (items fuel rest).map fun (vs, rest) => (.array vs, rest)
    | '"' :: rest => (stringBody fuel [] rest).map fun (s, rest) => (.text s, rest)
    | 't' :: rest => (skipWord ['r', 'u', 'e'] rest).map (.boolean true, ·)
    | 'f' :: rest => (skipWord ['a', 'l', 's', 'e'] rest).map (.boolean false, ·)
    | 'n' :: rest => (skipWord ['u', 'l', 'l'] rest).map (.null, ·)
    | cs => (number cs).map fun (n, rest) => (.number n, rest)

/-- The items of an array, from the first one up to the closing bracket. -/
def items : Nat → List Char → Parsed (List Json)
  | 0, _ => none
  | fuel + 1, cs =>
    (value fuel cs).bind fun (v, rest) =>
      match skipBlanks rest with
      | ',' :: rest => (items fuel rest).map fun (vs, rest) => (v :: vs, rest)
      | ']' :: rest => some ([v], rest)
      | _ => none

/-- The members of an object, from the first one up to the closing brace. -/
def members : Nat → List Char → Parsed (List (String × Json))
  | 0, _ => none
  | fuel + 1, cs =>
    match skipBlanks cs with
    | '"' :: rest =>
      (stringBody fuel [] rest).bind fun (name, rest) =>
        match skipBlanks rest with
        | ':' :: rest =>
          (value fuel rest).bind fun (v, rest) =>
            match skipBlanks rest with
            | ',' :: rest => (members fuel rest).map fun (ms, rest) => ((name, v) :: ms, rest)
            | '\x7d' :: rest => some ([(name, v)], rest)
            | _ => none
        | _ => none
    | _ => none

end

end Parser

/-- The value that a text spells, with nothing but blanks around it. -/
def parse? (text : String) : Option Json :=
  let cs := text.toList
  (Parser.value (cs.length + 1) cs).bind fun (v, rest) =>
    if (Parser.skipBlanks rest).isEmpty then some v else none

end Conformance.Json
