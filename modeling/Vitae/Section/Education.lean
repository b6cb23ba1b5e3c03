import Vitae.Calendar.Tense
import Vitae.Resume.Entry
import Vitae.Section.Block
import Vitae.Section.Program

/-!
# Education

The courses of study, each with the name of its program and its dates, whose wording depends on
whether the graduation lies ahead.
-/

namespace Vitae.Section

open Text Latex Calendar

/-- The texts that show something, as one line. -/
def courseList (courses : List String) : String :=
  ", ".intercalate ((courses.filter fun c => isVisible (some c)).map singleLine)

/-- The first of the date fields that shows something. -/
def firstShown : List (Option DateValue) → Option DateValue
  | [] => none
  | value :: values => if display? value ≠ "" then value else firstShown values

/-- The grade, with the word for it behind it. -/
def gradeOf (s : Study) : Option String :=
  if isVisible s.gpa then some (singleLine? s.gpa ++ " GPA") else none

/-- The dates of a course of study. -/
def studyDates (s : Study) (today : Date) : Except FieldOverflow String :=
  study s.startDate (firstShown [s.graduationDate, s.endDate]) today

/-- The arguments of a course of study, once its dates are known. -/
def studyArgs (s : Study) (dates : String) : Candidates :=
  [("university", s.institution),
   ("college", s.location),
   ("program", some (programName programMark [s.degree, s.fieldOfStudy])),
   ("graduation", some dates),
   ("grade", gradeOf s),
   ("coursework", some (courseList s.coursework))]

/-- The line of a course of study, if it shows something. -/
def studyLine? (today : Date) (s : Study) : Except FieldOverflow (Option String) := do
  let dates ← studyDates s today
  return ((studyArgs s dates).command? educationItem).map (entryIndent ++ ·)

/-- The courses of study, with an empty line between two of them. -/
def education (studies : List Study) (today : Date) : Except FieldOverflow Block := do
  let items ← studies.mapM (studyLine? today)
  return wrap (banner "Education") educationSection "Education"
    ((items.filterMap id).intersperse "")

end Vitae.Section
