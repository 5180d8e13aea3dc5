/-!
Days of the Gregorian calendar, counted from 1970-01-01.
-/

namespace BatchBayes

/-- A day by year, month and day of the month. -/
structure CalendarDate where
  year : Int
  month : Nat
  day : Nat
deriving DecidableEq, Repr

namespace CalendarDate

/-- Every fourth year, but of the full centuries only every fourth. -/
def isLeapYear (year : Int) : Bool :=
  year % 4 == 0 && (year % 100 != 0 || year % 400 == 0)

/-- The number of days of a month. -/
def monthLength (year : Int) (month : Nat) : Nat :=
  if month = 2 then (if isLeapYear year then 29 else 28)
  else if month = 4 ∨ month = 6 ∨ month = 9 ∨ month = 11 then 30
  else 31

/-- Whether the calendar has such a day, within the years that are told
apart. -/
def isValid (date : CalendarDate) : Bool :=
  decide (-262143 ≤ date.year) && decide (date.year ≤ 262142) &&
    decide (1 ≤ date.month) && decide (date.month ≤ 12) &&
    decide (1 ≤ date.day) && decide (date.day ≤ monthLength date.year date.month)

/-- The number of days since 1970-01-01. Years are taken to start in March, so
that a leap day is their last one. -/
def toDays (date : CalendarDate) : Int :=
  let year := if date.month ≤ 2 then date.year - 1 else date.year
  let month := (date.month + 9) % 12
  let century := Int.fdiv year 400
  let yearOfCycle := year - century * 400
  let dayOfYear : Int := ((153 * month + 2) / 5 + (date.day - 1) : Nat)
  let dayOfCycle :=
    yearOfCycle * 365 + Int.fdiv yearOfCycle 4 - Int.fdiv yearOfCycle 100 + dayOfYear
  century * 146097 + dayOfCycle - 719468

/-- The day with a given number. -/
def ofDays (days : Int) : CalendarDate :=
  let shifted := days + 719468
  let century := Int.fdiv shifted 146097
  let dayOfCycle := (shifted - century * 146097).toNat
  let yearOfCycle :=
    (dayOfCycle - dayOfCycle / 1460 + dayOfCycle / 36524 - dayOfCycle / 146096) / 365
  let dayOfYear :=
    dayOfCycle - (365 * yearOfCycle + yearOfCycle / 4 - yearOfCycle / 100)
  let month := (5 * dayOfYear + 2) / 153
  let day := dayOfYear - (153 * month + 2) / 5 + 1
  let civilMonth := if month < 10 then month + 3 else month - 9
  let year := century * 400 + yearOfCycle
  ⟨if civilMonth ≤ 2 then year + 1 else year, civilMonth, day⟩

example : toDays ⟨1970, 1, 1⟩ = 0 := by decide

example : ofDays (toDays ⟨2024, 2, 29⟩) = ⟨2024, 2, 29⟩ := by decide

end CalendarDate

end BatchBayes
