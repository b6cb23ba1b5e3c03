import Vitae.Calendar.Date

/-!
# Moments

A date with a time of day, and possibly with an offset from universal time.
-/

namespace Vitae.Calendar

/-- A date and a time of day. -/
structure Moment where
  /-- The day. -/
  date : Date
  /-- The hour, from 0 to 23. -/
  hour : Nat
  /-- The minute, from 0 to 59. -/
  minute : Nat
  /-- The second, from 0 to 59. -/
  second : Nat
  /-- The millionths of a second. -/
  micro : Nat
  /-- The offset from universal time in millionths of a second, if it is known. -/
  offset : Option Int
  deriving DecidableEq, Repr, Inhabited

namespace Moment

/-- Seconds with their millionths, where there are any. -/
def secondsText (second micro : Nat) : String :=
  padded 2 second ++ (if micro = 0 then "" else "." ++ padded 6 micro)

/-- An offset: its sign, hours and minutes, and its seconds where there are any. -/
def offsetText (offset : Int) : String :=
  let micros := offset.natAbs
  let seconds := micros / 1000000
  (if offset < 0 then "-" else "+") ++ padded 2 (seconds / 3600) ++ ":" ++
    padded 2 (seconds / 60 % 60) ++
    (if seconds % 60 = 0 && micros % 1000000 = 0 then ""
     else ":" ++ secondsText (seconds % 60) (micros % 1000000))

/-- The form `YYYY-MM-DD`, the separator, `HH:MM:SS`, the millionths if there are any, and the
offset if it is known. -/
def text (separator : String) (t : Moment) : String :=
  t.date.text ++ separator ++ padded 2 t.hour ++ ":" ++ padded 2 t.minute ++ ":" ++
    secondsText t.second t.micro ++ (t.offset.map offsetText).getD ""

/-- The millionths of a second from the beginning of the calendar to the moment, by the clock of its
place. -/
def clock (t : Moment) : Nat :=
  (((t.date.dayNumber * 24 + t.hour) * 60 + t.minute) * 60 + t.second) * 1000000 + t.micro

/-- Whether two moments are the same instant.  One whose offset is not known is never the same as
one whose offset is known. -/
def sameInstant (t u : Moment) : Bool :=
  match t.offset, u.offset with
  | none, none => t.clock == u.clock
  | some a, some b => (t.clock : Int) - a == (u.clock : Int) - b
  | _, _ => false

end Moment

end Vitae.Calendar
