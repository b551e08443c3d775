import Conformance.Binary64

/-! The shortest decimal of a binary64 value: the fewest digits that read back as the value, and of
those the nearest to it. With its layout: positional for moderate exponents, and always with a
fractional part there, so that it cannot be taken for an integer. -/

namespace Conformance.Binary64

/-- A positive decimal `0.d₁d₂… × 10^point`, by its digits as one number. -/
structure Decimal where
  digits : Nat
  point : Int
deriving DecidableEq, Repr

/-- The real numbers that round to a value, as ratios over one denominator: the value itself, the
ends of the interval, and whether the ends belong to it. -/
structure Interval where
  value : Nat
  low : Nat
  high : Nat
  den : Nat
  closed : Bool

/-- The interval of a positive finite value. Below a power of two the neighbour is half as far
away; ends round to the even significand. -/
def interval (x : Binary64) : Interval :=
  let m := x.significand
  let below := if x.absBits % normalBit = 0 && 1 < x.absBits / normalBit then 1 else 2
  let (unit, den) := if 0 ≤ x.exponent then (1 <<< x.exponent.toNat, 4)
    else (1, 4 <<< (-x.exponent).toNat)
  { value := 4 * m * unit, low := (4 * m - below) * unit, high := (4 * m + 2) * unit, den,
    closed := m % 2 == 0 }

/-- Whether `num / den` lies in the interval. -/
def Interval.contains (i : Interval) (num den : Nat) : Bool :=
  let a := num * i.den
  let l := i.low * den
  let h := i.high * den
  if i.closed then l ≤ a && a ≤ h else l < a && a < h

/-- The number of decimal digits before the point of `num / den`; zero or less for a ratio below
one. -/
def decimalPoint (num den : Nat) : Int :=
  let estimate : Int := (Int.ofNat num.log2 - Int.ofNat den.log2) * 30103 / 100000
  let reaches (p : Int) : Bool :=
    if 0 ≤ p then den * Nat.pow 10 p.toNat ≤ num else den ≤ num * Nat.pow 10 (-p).toNat
  ((List.range 5).map fun k => estimate + 3 - Int.ofNat k).find? (fun p => reaches (p - 1))
    |>.getD estimate

/-- The multiple of ten to the power `place` at position `n`, as a ratio. -/
def gridPoint (n : Nat) (place : Int) : Nat × Nat :=
  if 0 ≤ place then (n * Nat.pow 10 place.toNat, 1) else (n, Nat.pow 10 (-place).toNat)

/-- The point of the grid with last place `place` that lies in the interval and is nearest to the
value; a tie goes to the even digit. Only the two neighbours of the value can be it. -/
def nearestOnGrid (i : Interval) (place : Int) : Option Nat :=
  let (num, den) := if 0 ≤ place then (i.value, i.den * Nat.pow 10 place.toNat)
    else (i.value * Nat.pow 10 (-place).toNat, i.den)
  let floor := num / den
  let inside (n : Nat) : Bool := let p := gridPoint n place; i.contains p.1 p.2
  let preferred := roundDiv num den
  let other := if preferred = floor then floor + 1 else floor
  if inside preferred then some preferred else if inside other then some other else none

/-- The digits without the zeros at their end. -/
def stripZeros : Nat → Nat → Nat
  | 0, digits => digits
  | fuel + 1, digits =>
    if digits ≠ 0 ∧ digits % 10 = 0 then stripZeros fuel (digits / 10) else digits

/-- The shortest decimal of a positive finite value. Seventeen digits always suffice. -/
def shortest (x : Binary64) : Decimal :=
  let i := x.interval
  let point := decimalPoint i.value i.den
  let candidate (count : Nat) : Option Decimal :=
    (nearestOnGrid i (point - Int.ofNat count)).map fun n =>
      { digits := stripZeros 18 n
        point := point - Int.ofNat count + Int.ofNat (toString n).length }
  (((List.range 17).map (· + 1)).findSome? candidate).getD ⟨0, 0⟩

/-- The layout of a decimal: positional with a fractional part while the exponent of the first
digit is from -5 to 15, and scientific outside. -/
def Decimal.text (d : Decimal) : String :=
  let digits := toString d.digits
  let count : Int := Int.ofNat digits.length
  let exponent := d.point - 1
  let zeros (n : Int) : String := String.ofList (List.replicate n.toNat '0')
  if -5 ≤ exponent && exponent ≤ 15 then
    if d.point ≤ 0 then "0." ++ zeros (-d.point) ++ digits
    else if count ≤ d.point then digits ++ zeros (d.point - count) ++ ".0"
    else
      let cs := digits.toList
      String.ofList (cs.take d.point.toNat) ++ "." ++ String.ofList (cs.drop d.point.toNat)
  else
    let cs := digits.toList
    let fraction := cs.drop 1
    let mantissa := if fraction.isEmpty then digits
      else String.ofList (cs.take 1) ++ "." ++ String.ofList fraction
    mantissa ++ (if exponent < 0 then "e-" else "e+") ++ toString exponent.natAbs

/-- The text of a finite value. Zero keeps its sign. -/
def text (x : Binary64) : String :=
  (if x.isNegative then "-" else "") ++
    if x.absBits = 0 then "0.0" else x.shortest.text

end Conformance.Binary64
