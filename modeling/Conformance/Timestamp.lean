/-! Points in time in UTC: a Gregorian date, the minute of the day, and the second of the minute
with its nanoseconds. A minute may have a second 60, which is how a leap second is kept. -/

namespace Conformance

def isLeapYear (year : Int) : Bool :=
  year % 4 == 0 && (year % 100 != 0 || year % 400 == 0)

/-- The number of days of a month from 1 to 12. -/
def daysInMonth (year : Int) (month : Nat) : Nat :=
  if month = 2 then if isLeapYear year then 29 else 28
  else if month = 4 ∨ month = 6 ∨ month = 9 ∨ month = 11 then 30
  else 31

/-- The years that dates may lie in. -/
def firstYear : Int := -262143

def lastYear : Int := 262142

/-- An existing day of the Gregorian calendar, extended to years before its introduction. -/
structure Date where
  year : Int
  month : Nat
  day : Nat
  year_range : firstYear ≤ year ∧ year ≤ lastYear
  month_range : 1 ≤ month ∧ month ≤ 12
  day_range : 1 ≤ day ∧ day ≤ daysInMonth year month
deriving DecidableEq

namespace Date

/-- The date with these numbers, if it exists. -/
def of? (year : Int) (month day : Nat) : Option Date :=
  if hy : firstYear ≤ year ∧ year ≤ lastYear then
    if hm : 1 ≤ month ∧ month ≤ 12 then
      if hd : 1 ≤ day ∧ day ≤ daysInMonth year month then
        some ⟨year, month, day, hy, hm, hd⟩
      else none
    else none
  else none

/-- The following day; nothing after the last year. -/
def next? (d : Date) : Option Date :=
  if d.day < daysInMonth d.year d.month then of? d.year d.month (d.day + 1)
  else if d.month < 12 then of? d.year (d.month + 1) 1
  else of? (d.year + 1) 1 1

/-- The preceding day; nothing before the first year. -/
def previous? (d : Date) : Option Date :=
  if 1 < d.day then of? d.year d.month (d.day - 1)
  else if 1 < d.month then of? d.year (d.month - 1) (daysInMonth d.year (d.month - 1))
  else of? (d.year - 1) 12 31

theorem of?_self (d : Date) : of? d.year d.month d.day = some d := by
  simp [of?, d.year_range, d.month_range, d.day_range]

end Date

/-- A point in time in UTC. A leap second ends its minute, as the second 60. One that is put at any
other second, by setting the nanoseconds there to 10^9 or more, is left out of the type: no reader
and no clock gives it, and it does not read back from its text. -/
structure Timestamp where
  date : Date
  minute : Fin 1440
  second : Fin 61
  nanosecond : Fin 1000000000
deriving DecidableEq

namespace Timestamp

/-- The point in time with this local date and clock time, `offset` minutes ahead of UTC. -/
def ofLocal? (year : Int) (month day hour minute second nanosecond : Nat) (offset : Int) :
    Option Timestamp :=
  if hour ≤ 23 ∧ minute ≤ 59 then
    if hs : second < 61 then
      if hn : nanosecond < 1000000000 then do
        let date ← Date.of? year month day
        let total := Int.ofNat (hour * 60 + minute) - offset
        let (date, total) ←
          if total < 0 then date.previous?.map (·, total + 1440)
          else if 1440 ≤ total then date.next?.map (·, total - 1440)
          else some (date, total)
        if hm : total.toNat < 1440 then
          some ⟨date, ⟨total.toNat, hm⟩, ⟨second, hs⟩, ⟨nanosecond, hn⟩⟩
        else none
      else none
    else none
  else none

end Timestamp
end Conformance
