/-! Digits in bases up to sixteen, and the numbers that runs of them spell. -/

namespace Conformance.Text

/-- The value of a digit. Letters of either case stand for ten to fifteen. -/
def digitValue? (c : Char) : Option Nat :=
  if '0' ≤ c && c ≤ '9' then some (c.toNat - '0'.toNat)
  else if 'a' ≤ c && c ≤ 'f' then some (c.toNat - 'a'.toNat + 10)
  else if 'A' ≤ c && c ≤ 'F' then some (c.toNat - 'A'.toNat + 10)
  else none

def isDigitBelow (base : Nat) (c : Char) : Bool := (digitValue? c).any (· < base)

/-- The number that digits spell, the most significant one first. -/
def digitsValue (base : Nat) (digits : List Char) : Nat :=
  digits.foldl (fun value c => value * base + (digitValue? c).getD 0) 0

/-- The number that a run of characters spells; nothing if one of them is no digit. -/
def digitsValue? (base : Nat) (cs : List Char) : Option Nat :=
  if cs.all (isDigitBelow base) then some (digitsValue base cs) else none

end Conformance.Text
