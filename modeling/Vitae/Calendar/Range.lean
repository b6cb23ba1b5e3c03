import Vitae.Text.Blank
import Vitae.Calendar.Moment

/-!
# Date fields and their ranges

A date field of a résumé holds a text such as `Summer 2021`, shown as it stands, or a calendar date,
shown as month and year.  Two of them make a range.
-/

namespace Vitae.Calendar

open Text

/-- What a date field holds. -/
inductive DateValue where
  /-- Text in any form. -/
  | text (s : String)
  /-- A date. -/
  | date (d : Date)
  /-- A date with a time of day. -/
  | moment (t : Moment)
  deriving DecidableEq, Repr

/-- What is shown for the content of a date field. -/
def DateValue.display : DateValue → String
  | .text s => trim s
  | .date d => d.monthText
  | .moment t => t.date.monthText

/-- What is shown for a date field; nothing when it is empty. -/
def display? : Option DateValue → String
  | none => ""
  | some v => v.display

/-- The word for the end of a range that goes on. -/
def present : String := "Present"

/-- What stands between the two ends of a range. -/
def rangeMark : String := " -- "

/-- A range of which both ends are already text: the two with the mark between them, or the one that
is there. -/
def joinRange (start stop : String) : String :=
  if start ≠ "" && stop ≠ "" then start ++ rangeMark ++ stop
  else if start ≠ "" then start else stop

/-- The text of a range.  When it goes on, its end is `Present`, whatever end is given. -/
def range (start stop : Option DateValue) (isCurrent : Bool) : String :=
  joinRange (display? start) (if isCurrent then present else display? stop)

end Vitae.Calendar
