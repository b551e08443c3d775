import Conformance.Json
import Conformance.Text.Digits

/-! The number that a JSON numeral stands for. Digits alone are an integer if that fits in 64 bits,
signed or unsigned. Every other numeral is a binary64 value: a significand, made of the digits in
front that fit in 64 bits, times or divided by a power of ten, each rounded before they meet. -/

namespace Conformance.Json

/-- A numeral by its parts; the digits of the fraction and the exponent may be absent. -/
structure Numeral where
  negative : Bool
  whole : List Char
  fraction : Option (List Char)
  exponent : Option Int
deriving DecidableEq, Repr

namespace Numeral

/-- Appends digits to a number up to the first one that would not fit in 64 bits. The digits from
that one on are left over. -/
def absorb (value : Nat) : List Char → Nat × List Char
  | [] => (value, [])
  | c :: cs =>
    let longer := value * 10 + Text.digitsValue 10 [c]
    if longer < UInt64.size then absorb longer cs else (value, c :: cs)

/-- The significand and the power of ten that go with it. Digits that are left over count as places
before the point and not at all after it. -/
def parts (n : Numeral) : Nat × Int :=
  let (value, places) := absorb 0 n.whole
  let fraction := n.fraction.getD []
  let (value, ignored) := absorb value fraction
  (value, n.exponent.getD 0 + Int.ofNat places.length -
    Int.ofNat (fraction.length - ignored.length))

/-- The binary64 value; nothing if it is too large. -/
def real? (n : Numeral) : Option Binary64 :=
  Binary64.ofScaled? n.negative n.parts.1 n.parts.2

/-- The integer that digits alone spell. Negative zero is none. -/
def integer? (n : Numeral) : Option Int :=
  let value := Int.ofNat (Text.digitsValue 10 n.whole)
  if n.fraction.isSome || n.exponent.isSome then none
  else if n.negative then
    if -value < 0 ∧ Int64.minValue.toInt ≤ -value then some (-value) else none
  else if value < UInt64.size then some value
  else none

/-- The number, an integer where the numeral is one. -/
def number? (n : Numeral) : Option Number :=
  (n.integer?.map .integer).or (n.real?.map .real)

end Numeral
end Conformance.Json
