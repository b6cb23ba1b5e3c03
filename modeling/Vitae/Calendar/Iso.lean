import Vitae.Calendar.Date

/-!
# Reading dates in numeric form

Dates are read in the forms of the international standard: `YYYY-MM-DD`, `YYYYMMDD`, and the week
forms `YYYY-Www`, `YYYY-Www-D`, `YYYYWww`, `YYYYWwwD`.  Digits are those of ASCII.  A text that is
long enough for a date with separators may carry two further bytes after a form without separators;
they are not looked at.
-/

namespace Vitae.Calendar

/-- The number that exactly `n` digits of ASCII spell at the front of a text, and the rest. -/
def takeNumber? (n : Nat) (cs : List Char) : Option (Nat × List Char) :=
  let digits := cs.take n
  if digits.length = n && digits.all Char.isDigit then
    some (digits.foldl (fun k c => 10 * k + (c.toNat - 48)) 0, cs.drop n)
  else none

/-- The rest of a text that begins with the given character. -/
def skip? (c : Char) : List Char → Option (List Char)
  | [] => none
  | d :: rest => if d = c then some rest else none

/-- The number of bytes of a text in UTF-8. -/
def byteCount (cs : List Char) : Nat := (String.ofList cs).utf8ByteSize

/-- The date of a week form, read after its `W`. -/
def weekDate? (year : Nat) (separated : Bool) (cs : List Char) : Option Date := do
  let (week, rest) ← takeNumber? 2 cs
  if rest.isEmpty then Date.ofWeek? year week 1
  else
    let rest ← if separated then skip? '-' rest else some rest
    let (weekday, _) ← takeNumber? 1 rest
    Date.ofWeek? year week weekday

/-- The date of a form with month and day, read after the year. -/
def monthDate? (year : Nat) (separated : Bool) (cs : List Char) : Option Date := do
  let (month, rest) ← takeNumber? 2 cs
  let rest ← if separated then skip? '-' rest else some rest
  let (day, _) ← takeNumber? 2 rest
  Date.mk? year month day

/-- The date that a text spells. -/
def date? (cs : List Char) : Option Date := do
  let size := byteCount cs
  if size = 7 || size = 8 || size = 10 then
    let (year, rest) ← takeNumber? 4 cs
    let separated := (skip? '-' rest).isSome
    let rest := (skip? '-' rest).getD rest
    match skip? 'W' rest with
    | some rest => weekDate? year separated rest
    | none => monthDate? year separated rest
  else none

example : (date? "2020-W01-1".toList).map Date.text = some "2019-12-30" := by decide +kernel
example : (date? "2020-02-30".toList).map Date.text = none := by decide +kernel

end Vitae.Calendar
