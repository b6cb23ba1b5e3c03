import Vitae.Calendar.Iso
import Vitae.Calendar.Range
import Vitae.Decimal.Integer

/-!
# The tense of a date

Whether a date field names a day after a given one, and what is shown for a course of study, which
depends on that.  A text names a day if it is `MM/YYYY`, the first of that month, or begins with a
date in numeric form; any other text counts as past.
-/

namespace Vitae.Calendar

open Text

/-- A year or a month that no calendar field can hold: it does not fit into 32 bits. -/
inductive FieldOverflow where
  /-- The year or the month of a text `MM/YYYY` is too large. -/
  | monthOfYear
  deriving DecidableEq, Repr

/-- What a text names. -/
inductive Reading where
  /-- A day. -/
  | day (d : Date)
  /-- No day. -/
  | noDay
  /-- A month whose numbers no calendar field can hold. -/
  | tooLarge
  deriving DecidableEq, Repr

/-- Whether a number fits into a signed field of 32 bits. -/
def fitsField (n : Int) : Bool := -2147483648 ≤ n && n < 2147483648

/-- The first day of a month of a year. -/
def Reading.ofMonth (year month : Int) : Reading :=
  if fitsField year && fitsField month then
    if 0 < year ∧ 0 < month then
      (Date.mk? year.toNat month.toNat 1).elim .noDay .day
    else .noDay
  else .tooLarge

/-- What a text without outer blanks names. -/
def Reading.ofTrimmed (cs : List Char) : Reading :=
  match splitChars '/' cs with
  | [_] => (date? (cs.take 10)).elim .noDay .day
  | [month, year] =>
    match Decimal.integer? year, Decimal.integer? month with
    | some y, some m => .ofMonth y m
    | _, _ => .noDay
  | _ => .noDay

/-- What a text names. -/
def Reading.ofText (s : String) : Reading := .ofTrimmed (trimChars s.toList)

/-- What the content of a date field names. -/
def DateValue.reading : DateValue → Reading
  | .text s => .ofText s
  | .date d => .day d
  | .moment t => .day t.date

/-- Whether a date field names a day after `today`. -/
def isFuture (value : Option DateValue) (today : Date) : Except FieldOverflow Bool :=
  match value.map DateValue.reading with
  | none | some .noDay => .ok false
  | some (.day d) => .ok (d.isAfter today)
  | some .tooLarge => .error .monthOfYear

/-- The word before a graduation to come. -/
def graduating : String := "Graduating"

/-- The word before a graduation that is past. -/
def graduated : String := "Graduated"

/-- The word for the end of a course of study that goes on. -/
def inProgress : String := "In Progress"

/-- What is shown for a course of study whose graduation is past. -/
def pastStudy (start graduation : Option DateValue) : String :=
  let shown := range start graduation false
  if display? start = "" && shown ≠ "" then graduated ++ " " ++ shown else shown

/-- What is shown for a course of study: the graduation to come, the past range, or the start of a
study without a graduation. -/
def study (start graduation : Option DateValue) (today : Date) : Except FieldOverflow String :=
  if display? graduation ≠ "" then do
    let future ← isFuture graduation today
    return if future then graduating ++ " " ++ display? graduation else pastStudy start graduation
  else if display? start ≠ "" then .ok (display? start ++ rangeMark ++ inProgress)
  else .ok ""

end Vitae.Calendar
