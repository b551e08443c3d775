/-! Binary64 values as 64-bit patterns: the pattern nearest to a ratio or a decimal, with ties to
the even neighbour, and back from a pattern to a natural number times a power of two. All
arithmetic is on natural numbers. -/

namespace Conformance

/-- A binary64 value by its bit pattern. -/
structure Binary64 where
  bits : UInt64
deriving DecidableEq, Repr

namespace Binary64

/-- `num / den` rounded to a natural number, with a half going to the even neighbour. -/
def roundDiv (num den : Nat) : Nat :=
  let quotient := num / den
  let twice := 2 * (num % den)
  if twice < den then quotient
  else if den < twice then quotient + 1
  else quotient + quotient % 2

/-- `num / den` times two to the power `-exponent`, as a numerator and a denominator. -/
def scale (num den : Nat) (exponent : Int) : Nat × Nat :=
  if exponent ≤ 0 then (num <<< (-exponent).toNat, den)
  else (num, den <<< exponent.toNat)

/-- The pattern of positive infinity, above every finite pattern. -/
def infinityBits : Nat := 0x7FF0000000000000

/-- The pattern that stands for no number. -/
def nanBits : Nat := 0x7FF8000000000000

/-- The bit of the sign. -/
def signBit : Nat := 0x8000000000000000

/-- The least significand of a normal value; also the place of the exponent in a pattern. -/
def normalBit : Nat := 0x10000000000000

/-- The exponent of the last place of the value nearest to `num / den`: it leaves 53 binary digits
before the point, and is at least that of the least positive value. -/
def lastPlace (num den : Nat) : Int :=
  let estimate : Int := Int.ofNat num.log2 - Int.ofNat den.log2 - 52
  let (n, d) := scale num den estimate
  let exponent := if n < normalBit * d then estimate - 1 else estimate
  max exponent (-1074)

/-- The pattern of the non-negative value nearest to `num / den`. A significand that rounds up to
two to the power 53 carries into the exponent by itself, since the fields are adjacent. -/
def magnitude (num den : Nat) : Nat :=
  if num = 0 then 0
  else
    let exponent := lastPlace num den
    let (n, d) := scale num den exponent
    min infinityBits ((exponent + 1074).toNat * normalBit + roundDiv n d)

/-- A pattern with its sign bit. -/
def ofMagnitude (negative : Bool) (magnitude : Nat) : Binary64 :=
  ⟨UInt64.ofNat (if negative then magnitude + signBit else magnitude)⟩

/-- The value nearest to `digits` times ten to the power `exponent`. Exponents far outside the
range of the format are decided without computing the power. -/
def ofDecimal (negative : Bool) (digits : Nat) (exponent : Int) : Binary64 :=
  ofMagnitude negative <|
    if digits = 0 then 0
    else if 400 < exponent then infinityBits
    else if exponent < -(Int.ofNat (400 + digits.log2)) then 0
    else if 0 ≤ exponent then magnitude (digits * Nat.pow 10 exponent.toNat) 1
    else magnitude digits (Nat.pow 10 (-exponent).toNat)

def isNegative (x : Binary64) : Bool := x.bits.toNat / signBit == 1

/-- The pattern without its sign bit. -/
def absBits (x : Binary64) : Nat := x.bits.toNat % signBit

def isPositiveInfinity (x : Binary64) : Bool := x.bits.toNat == infinityBits

/-- A finite value is its significand times two to the power of its exponent, up to sign. -/
def significand (x : Binary64) : Nat :=
  let fraction := x.absBits % normalBit
  if x.absBits / normalBit = 0 then fraction else fraction + normalBit

/-- The exponent that belongs to `significand`. -/
def exponent (x : Binary64) : Int :=
  let field := x.absBits / normalBit
  if field = 0 then -1074 else Int.ofNat field - 1075

/-- A ratio of natural numbers that a finite value equals, up to sign. -/
def ratio (x : Binary64) : Nat × Nat := scale x.significand 1 (-x.exponent)

/-- The magnitude of the product of two finite values. -/
def mul (x y : Binary64) : Binary64 :=
  let (a, b) := x.ratio
  let (c, d) := y.ratio
  ofMagnitude false (magnitude (a * c) (b * d))

/-- The magnitude of the quotient of two finite values, the second one not zero. -/
def div (x y : Binary64) : Binary64 :=
  let (a, b) := x.ratio
  let (c, d) := y.ratio
  ofMagnitude false (magnitude (a * d) (b * c))

/-- The value nearest to ten to the power `n`, which is finite for `n` up to 308. -/
def powerOfTen (n : Nat) : Binary64 := ofDecimal false 1 n

/-- A value divided by ten to the power `n`, in steps of finite powers. -/
def divPowerOfTen (x : Binary64) (n : Nat) : Binary64 :=
  if x.absBits = 0 then x
  else if 308 < n then divPowerOfTen (x.div (powerOfTen 308)) (n - 308)
  else x.div (powerOfTen n)
termination_by n
decreasing_by omega

/-- A value times ten to the power `n`; nothing if that is too large. -/
def mulPowerOfTen? (x : Binary64) (n : Nat) : Option Binary64 :=
  if x.absBits = 0 then some x
  else if 308 < n then none
  else (some (x.mul (powerOfTen n))).filter fun y => !y.isPositiveInfinity

/-- `digits` times ten to the power `exponent`, where the digits, the power and the result are each
rounded; nothing if that is too large. -/
def ofScaled? (negative : Bool) (digits : Nat) (exponent : Int) : Option Binary64 :=
  let x := ofDecimal false digits 0
  let scaled := if 0 ≤ exponent then mulPowerOfTen? x exponent.toNat
    else some (divPowerOfTen x (-exponent).toNat)
  scaled.map fun y => ofMagnitude negative y.absBits

/-- The natural number nearest to `n` among those with at most 53 significant binary digits. -/
def roundNat (n : Nat) : Nat :=
  let dropped := n.log2 - 52
  roundDiv n (1 <<< dropped) <<< dropped

/-- The quotient of two natural numbers, each first rounded to the format. -/
def quotient (a b : Nat) : Binary64 :=
  ofMagnitude false (magnitude (roundNat a) (roundNat b))

/-- The pattern in 16 hexadecimal digits. -/
def hex (x : Binary64) : String :=
  let digits := Nat.toDigits 16 x.bits.toNat
  String.ofList (List.replicate (16 - digits.length) '0' ++ digits)

end Binary64
end Conformance
