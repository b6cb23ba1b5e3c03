/-!
# Calendar dates

Dates of the Gregorian calendar from year 1 to year 9999, their day numbers, and their written form
`YYYY-MM-DD`.
-/

namespace Vitae.Calendar

/-- Whether a year has a 29 February. -/
def isLeap (year : Nat) : Bool := year % 4 = 0 && (year % 100 ≠ 0 || year % 400 = 0)

/-- The number of days of a month; none for a month that does not exist. -/
def daysInMonth (year month : Nat) : Nat :=
  if month = 2 then (if isLeap year then 29 else 28)
  else if month = 4 || month = 6 || month = 9 || month = 11 then 30
  else if 1 ≤ month ∧ month ≤ 12 then 31 else 0

/-- What makes three numbers a date. -/
def IsDate (year month day : Nat) : Prop :=
  (1 ≤ year ∧ year ≤ 9999) ∧ (1 ≤ month ∧ month ≤ 12) ∧ 1 ≤ day ∧ day ≤ daysInMonth year month

instance (year month day : Nat) : Decidable (IsDate year month day) := by
  unfold IsDate; infer_instance

/-- A date of the calendar. -/
structure Date where
  /-- The year, from 1 to 9999. -/
  year : Nat
  /-- The month, from 1 to 12. -/
  month : Nat
  /-- The day of the month. -/
  day : Nat
  /-- The day exists. -/
  isDate : IsDate year month day
  deriving DecidableEq, Repr

/-- The date of the three numbers, if there is one. -/
def Date.mk? (year month day : Nat) : Option Date :=
  if h : IsDate year month day then some ⟨year, month, day, h⟩ else none

instance : Inhabited Date := ⟨⟨1, 1, 1, by decide⟩⟩

/-- Earlier dates come first. -/
def Date.compare (a b : Date) : Ordering :=
  (Ord.compare a.year b.year).then ((Ord.compare a.month b.month).then (Ord.compare a.day b.day))

/-- Whether a date lies after another one. -/
def Date.isAfter (a b : Date) : Bool := a.compare b == .gt

/-! ### Day numbers -/

/-- The number of days from 1 January of year 1 to 1 January of `year`. -/
def daysBeforeYear (year : Nat) : Nat :=
  let y := year - 1
  365 * y + y / 4 - y / 100 + y / 400

/-- The number of days of the year before the first of `month`. -/
def daysBeforeMonth (year month : Nat) : Nat :=
  (List.range (month - 1)).foldl (fun days m => days + daysInMonth year (m + 1)) 0

/-- The number of days from 1 January of year 1 to a date. -/
def Date.dayNumber (d : Date) : Nat :=
  daysBeforeYear d.year + daysBeforeMonth d.year d.month + (d.day - 1)

/-- The month and day that lie `n` days after the first of `month`, within the months of the year
that `fuel` leaves. -/
def monthDay (year : Nat) : Nat → Nat → Nat → Nat × Nat
  | 0, month, n => (month, n + 1)
  | fuel + 1, month, n =>
    if n < daysInMonth year month then (month, n + 1)
    else monthDay year fuel (month + 1) (n - daysInMonth year month)

/-- The date that lies `n` days after 1 January of year 1, if it is in the range of the calendar. -/
def Date.ofDayNumber? (n : Nat) : Option Date :=
  let centuries4 := n / 146097
  let n := n % 146097
  let centuries := min (n / 36524) 3
  let n := n - 36524 * centuries
  let years4 := n / 1461
  let n := n % 1461
  let years := min (n / 365) 3
  let n := n - 365 * years
  let year := 400 * centuries4 + 100 * centuries + 4 * years4 + years + 1
  let (month, day) := monthDay year 11 1 n
  Date.mk? year month day

/-! ### Weeks -/

/-- The day of the week on which a year begins, Monday being 0. -/
def firstWeekday (year : Nat) : Nat := daysBeforeYear year % 7

/-- The day number of the Monday of week 1 of a year, the week that holds its first Thursday; for
year 1 it is 0. -/
def firstMonday (year : Nat) : Nat :=
  if firstWeekday year ≤ 3 then daysBeforeYear year - firstWeekday year
  else daysBeforeYear year + 7 - firstWeekday year

/-- The number of weeks of a year: 53 if it begins on a Thursday, or on a Wednesday and is leap. -/
def weeksInYear (year : Nat) : Nat :=
  if firstWeekday year = 3 || (firstWeekday year = 2 && isLeap year) then 53 else 52

/-- The date of a day of a week, weeks and days counted from 1; Monday is day 1. -/
def Date.ofWeek? (year week weekday : Nat) : Option Date :=
  if 1 ≤ year ∧ (1 ≤ week ∧ week ≤ weeksInYear year) ∧ 1 ≤ weekday ∧ weekday ≤ 7 then
    Date.ofDayNumber? (firstMonday year + 7 * (week - 1) + (weekday - 1))
  else none

/-! ### Written form -/

/-- A number with zeros in front, at least `width` digits long. -/
def padded (width n : Nat) : String :=
  let digits := Nat.toDigits 10 n
  String.ofList (List.replicate (width - digits.length) '0' ++ digits)

/-- The form `YYYY-MM-DD`. -/
def Date.text (d : Date) : String :=
  padded 4 d.year ++ "-" ++ padded 2 d.month ++ "-" ++ padded 2 d.day

/-- The form `MM/YYYY`; the year is not padded. -/
def Date.monthText (d : Date) : String := padded 2 d.month ++ "/" ++ Nat.repr d.year

end Vitae.Calendar
