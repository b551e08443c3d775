import Conformance.Text.Digits
import Conformance.Timestamp
import Conformance.Toml

/-! Numbers, dates and the words for truth values in TOML. A scalar is the longest run of characters
that can stand in one; what it means is decided on the whole run. -/

namespace Conformance.Toml.Scalar

/-- A character that can stand in a number, a date or a word. -/
def isScalarChar (c : Char) : Bool :=
  c.isAlphanum || c == '+' || c == '-' || c == '.' || c == ':' || c == '_'

/-- The digits of a number, which may have single underscores between them. -/
def digits? (isDigit : Char → Bool) : List Char → Option (List Char)
  | [] => none
  | [c] => if isDigit c then some [c] else none
  | c :: '_' :: rest => if isDigit c then (digits? isDigit rest).map (c :: ·) else none
  | c :: rest => if isDigit c then (digits? isDigit rest).map (c :: ·) else none

/-- The sign in front, and the rest. -/
def splitSign : List Char → Bool × List Char
  | '+' :: rest => (false, rest)
  | '-' :: rest => (true, rest)
  | cs => (false, cs)

/-- Decimal digits without a zero in front. -/
def wholeDigits? (cs : List Char) : Option (List Char) :=
  (digits? Char.isDigit cs).filter fun ds => ds.length = 1 || ds.head? != some '0'

/-- Integers fit in 64 bits with a sign. -/
def integer? (value : Int) : Option Node :=
  if Int64.minValue.toInt ≤ value ∧ value ≤ Int64.maxValue.toInt then some (.integer value)
  else none

def decimalInteger? (cs : List Char) : Option Node :=
  let (negative, cs) := splitSign cs
  (wholeDigits? cs).bind fun ds =>
    let value := Int.ofNat (Text.digitsValue 10 ds)
    integer? (if negative then -value else value)

/-- Digits in a base up to sixteen, without a sign. -/
def baseInteger? (base : Nat) (cs : List Char) : Option Node :=
  (digits? (Text.isDigitBelow base) cs).bind fun ds =>
    integer? (Int.ofNat (Text.digitsValue base ds))

/-- An exponent: the letter, a sign, and digits. -/
def exponent? : List Char → Option Int
  | [] => some 0
  | c :: cs =>
    if c = 'e' || c = 'E' then
      let (negative, cs) := splitSign cs
      (digits? Char.isDigit cs).map fun ds =>
        let value := Int.ofNat (Text.digitsValue 10 ds)
        if negative then -value else value
    else none

/-- A number with a fraction or an exponent. One that rounds to positive infinity is no number. -/
def real? (cs : List Char) : Option Node :=
  let (negative, cs) := splitSign cs
  let (whole, cs) := cs.span fun c : Char => c.isDigit || c == '_'
  let (fraction, cs) := match cs with
    | '.' :: rest =>
      let (ds, rest) := rest.span fun c : Char => c.isDigit || c == '_'
      (some ds, rest)
    | cs => (none, cs)
  if fraction.isNone && cs.isEmpty then none
  else do
    let whole ← wholeDigits? whole
    let fraction ← match fraction with
      | none => some []
      | some ds => digits? Char.isDigit ds
    let exponent ← exponent? cs
    let value := Binary64.ofDecimal negative (Text.digitsValue 10 (whole ++ fraction))
      (exponent - Int.ofNat fraction.length)
    if value.isPositiveInfinity then none else some (.real value)

/-- Infinity and the value that is no number. -/
def special? (cs : List Char) : Option Node :=
  let (negative, cs) := splitSign cs
  if cs = ['i', 'n', 'f'] then some (.real (.ofMagnitude negative Binary64.infinityBits))
  else if cs = ['n', 'a', 'n'] then
    some (.real (.ofMagnitude negative Binary64.nanBits))
  else none

/-- Exactly `count` digits in front, with a value from `low` to `high`. -/
def field? (count low high : Nat) (cs : List Char) : Option (Nat × List Char) :=
  let ds := cs.take count
  let value := Text.digitsValue 10 ds
  if ds.length = count && ds.all Char.isDigit && low ≤ value && value ≤ high then
    some (value, cs.drop count)
  else none

def skip? (c : Char) : List Char → Option (List Char)
  | d :: rest => if c = d then some rest else none
  | [] => none

/-- The characters after an existing date. -/
def date? (cs : List Char) : Option (List Char) := do
  let (year, cs) ← field? 4 0 9999 cs
  let cs ← skip? '-' cs
  let (month, cs) ← field? 2 1 12 cs
  let cs ← skip? '-' cs
  let (_, cs) ← field? 2 1 (daysInMonth year month) cs
  return cs

/-- The characters after a time of day. -/
def time? (cs : List Char) : Option (List Char) := do
  let (_, cs) ← field? 2 0 23 cs
  let cs ← skip? ':' cs
  let (_, cs) ← field? 2 0 59 cs
  let cs ← skip? ':' cs
  let (_, cs) ← field? 2 0 60 cs
  match cs with
  | '.' :: rest =>
    let (ds, rest) := rest.span Char.isDigit
    if ds.isEmpty then none else some rest
  | cs => some cs

/-- Whether the characters are an offset from UTC or nothing. -/
def isOffset : List Char → Bool
  | [] => true
  | ['Z'] => true
  | ['z'] => true
  | c :: cs =>
    (c == '+' || c == '-') && Option.isSome do
      let (_, cs) ← field? 2 0 23 cs
      let cs ← skip? ':' cs
      let (_, cs) ← field? 2 0 59 cs
      if cs.isEmpty then some () else none

/-- Whether the characters are a time of day with or without an offset. -/
def isOffsetTime (cs : List Char) : Bool := (time? cs).any isOffset

/-- A date, a time, or both with a letter between them. -/
def isDateTime (cs : List Char) : Bool :=
  time? cs == some [] ||
    match date? cs with
    | some [] => true
    | some ('T' :: rest) => isOffsetTime rest
    | some ('t' :: rest) => isOffsetTime rest
    | _ => false

/-- What a run of scalar characters means. -/
def node? (cs : List Char) : Option Node :=
  match cs with
  | ['t', 'r', 'u', 'e'] => some (.boolean true)
  | ['f', 'a', 'l', 's', 'e'] => some (.boolean false)
  | '0' :: 'x' :: ds => baseInteger? 16 ds
  | '0' :: 'o' :: ds => baseInteger? 8 ds
  | '0' :: 'b' :: ds => baseInteger? 2 ds
  | cs =>
    if isDateTime cs then some .date
    else ((decimalInteger? cs).or (real? cs)).or (special? cs)

/-- A scalar at the front. A date may have one space before its time. -/
def read (cs : List Char) : Option (Node × List Char) :=
  let (run, rest) := cs.span isScalarChar
  match date? run, rest with
  | some [], ' ' :: more =>
    let (time, after) := more.span isScalarChar
    if isOffsetTime time then some (.date, after) else some (.date, rest)
  | _, _ => (node? run).map (·, rest)

end Conformance.Toml.Scalar
