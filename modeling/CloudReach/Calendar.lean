/-!
# The civil calendar

Dates of the proleptic Gregorian calendar and their day numbers, day zero being 1 January 1970.
A year is counted from March here, so that the leap day is its last.
-/

namespace CloudReach

structure Date where
  year : Int
  month : Nat
  day : Nat
deriving DecidableEq, Repr

namespace Date

def epochShift : Int := 719468

/-- The date with a day number. Every 400 years hold 146097 days; within them the year is found
from the day with the leap days taken out, and the month from the day of the year. -/
def ofDays (days : Int) : Date :=
  let z := days + epochShift
  let era := z / 146097
  let doe := (z % 146097).toNat
  let yoe := (doe - doe / 1460 + doe / 36524 - doe / 146096) / 365
  let doy := doe - (365 * yoe + yoe / 4 - yoe / 100)
  let mp := (5 * doy + 2) / 153
  let month := if mp < 10 then mp + 3 else mp - 9
  let year := era * 400 + yoe
  { year := if month ≤ 2 then year + 1 else year
    month := month
    day := doy - (153 * mp + 2) / 5 + 1 }

end Date

end CloudReach
