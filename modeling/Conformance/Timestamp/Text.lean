import Conformance.Json.Form
import Conformance.Text
import Conformance.Text.Digits
import Conformance.Timestamp

/-! The text of points in time. Two readers: `ofStrict?` accepts exactly the internet date-time
format, `ofRelaxed?` also white space between the parts, short numbers and signed years. The writer
uses the fewest of 0, 3, 6 or 9 fraction digits that are exact. -/

namespace Conformance.Timestamp

/-- The decimal digits of `n`, with zeros in front up to `width`. -/
def padded (width n : Nat) : List Char :=
  let digits := Nat.toDigits 10 n
  List.replicate (width - digits.length) '0' ++ digits

/-- Years outside 0 to 9999 carry a sign. -/
def yearText (year : Int) : List Char :=
  if 0 ≤ year ∧ year ≤ 9999 then padded 4 year.toNat
  else (if year < 0 then '-' else '+') :: padded 4 year.natAbs

def fractionText (nanosecond : Nat) : List Char :=
  if nanosecond = 0 then []
  else if nanosecond % 1000000 = 0 then '.' :: padded 3 (nanosecond / 1000000)
  else if nanosecond % 1000 = 0 then '.' :: padded 6 (nanosecond / 1000)
  else '.' :: padded 9 nanosecond

/-- The written form, in UTC. -/
def text (t : Timestamp) : String :=
  String.ofList <|
    yearText t.date.year ++ '-' :: padded 2 t.date.month ++ '-' :: padded 2 t.date.day ++
    'T' :: padded 2 (t.minute / 60) ++ ':' :: padded 2 (t.minute % 60) ++
    ':' :: padded 2 t.second ++ fractionText t.nanosecond ++ ['Z']

/-- The number in front, of at least `least` digits, reading at most `most`. -/
def number (least most : Nat) (cs : List Char) : Option (Nat × List Char) :=
  let ds := (cs.take most).takeWhile Char.isDigit
  if ds.length < least then none else some (Text.digitsValue 10 ds, cs.drop ds.length)

/-- The characters after `c`. -/
def skip (c : Char) : List Char → Option (List Char)
  | d :: rest => if c = d then some rest else none
  | [] => none

/-- The nanoseconds of a fraction, if there is one. Digits after the ninth are dropped. -/
def fraction : List Char → Option (Nat × List Char)
  | '.' :: rest =>
    let ds := rest.takeWhile Char.isDigit
    if ds.isEmpty then none
    else some (Text.digitsValue 10 ((ds ++ List.replicate 9 '0').take 9), rest.drop ds.length)
  | cs => some (0, cs)

/-- The sign of an offset: plus, hyphen or minus. -/
def offsetSign : List Char → Option (Int × List Char)
  | '+' :: rest => some (1, rest)
  | '-' :: rest => some (-1, rest)
  | '\u2212' :: rest => some (-1, rest)
  | _ => none

/-- The offset from UTC in minutes. `separator` skips what stands between hours and minutes. -/
def offset (separator : List Char → Option (List Char)) (cs : List Char) :
    Option (Int × List Char) :=
  match cs with
  | 'Z' :: rest => some (0, rest)
  | 'z' :: rest => some (0, rest)
  | cs => do
    let (sign, cs) ← offsetSign cs
    let (hours, cs) ← number 2 2 cs
    let cs ← separator cs
    let (minutes, cs) ← number 2 2 cs
    if hours ≤ 23 ∧ minutes ≤ 59 then some (sign * Int.ofNat (hours * 60 + minutes), cs) else none

/-- The letter or space between date and time. -/
def skipSeparator : List Char → Option (List Char)
  | 'T' :: rest => some rest
  | 't' :: rest => some rest
  | ' ' :: rest => some rest
  | _ => none

/-- Reads a date and time with all parts in full width and nothing around them. -/
def ofStrict? (s : String) : Option Timestamp := do
  let (year, cs) ← number 4 4 s.toList
  let cs ← skip '-' cs
  let (month, cs) ← number 2 2 cs
  let cs ← skip '-' cs
  let (day, cs) ← number 2 2 cs
  let cs ← skipSeparator cs
  let (hour, cs) ← number 2 2 cs
  let cs ← skip ':' cs
  let (minute, cs) ← number 2 2 cs
  let cs ← skip ':' cs
  let (second, cs) ← number 2 2 cs
  let (nanosecond, cs) ← fraction cs
  let (offset, cs) ← offset (skip ':') cs
  if cs.isEmpty then ofLocal? year month day hour minute second nanosecond offset else none

/-- A year of up to four digits, or of any number of digits after a sign. -/
def signedYear : List Char → Option (Int × List Char)
  | '-' :: rest => (number 1 rest.length rest).map fun (n, cs) => (-(Int.ofNat n), cs)
  | '+' :: rest => (number 1 rest.length rest).map fun (n, cs) => (Int.ofNat n, cs)
  | cs => (number 1 4 cs).map fun (n, cs) => (Int.ofNat n, cs)

/-- The characters after `c`, with white space around it. -/
def skipLoose (c : Char) (cs : List Char) : Option (List Char) :=
  (skip c (Text.trimLeft cs)).map Text.trimLeft

/-- The offset, or the letters `UTC` in any case. -/
def looseOffset (cs : List Char) : Option (Int × List Char) :=
  if (cs.take 3).map Char.toUpper = ['U', 'T', 'C'] then some (0, cs.drop 3)
  else offset (fun cs => some (cs.dropWhile fun c => c == ':' || Text.isSpace c)) cs

/-- Reads a date and time with parts of one or two digits and white space between them. -/
def ofRelaxed? (s : String) : Option Timestamp := do
  let (year, cs) ← signedYear (Text.trimLeft s.toList)
  let cs ← skipLoose '-' cs
  let (month, cs) ← number 1 2 cs
  let cs ← skipLoose '-' cs
  let (day, cs) ← number 1 2 cs
  let cs ← skipSeparator cs
  let (hour, cs) ← number 1 2 (Text.trimLeft cs)
  let cs ← skipLoose ':' cs
  let (minute, cs) ← number 1 2 cs
  let cs ← skipLoose ':' cs
  let (second, cs) ← number 1 2 cs
  let (nanosecond, cs) ← fraction cs
  let (offset, cs) ← looseOffset (Text.trimLeft cs)
  if (Text.trimLeft cs).isEmpty then
    ofLocal? year month day hour minute second nanosecond offset
  else none

instance : JsonForm Timestamp where
  toJson t := .text t.text
  ofJson?
    | .text s => ofRelaxed? s
    | _ => none

end Conformance.Timestamp
