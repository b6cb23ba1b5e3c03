import Vitae.Decimal.Binary64

/-!
# The shortest decimal text of a floating point number

A number is written with the fewest significant digits that read back as the same number, and of the
texts with so many digits the nearest one is taken.  It is written positionally while its exponent
is small, and in scientific notation otherwise.
-/

namespace Vitae.Decimal

namespace Binary64

/-- The positive real numbers that round to a number, as integers over a common denominator: those
between `low / den` and `high / den`, the ends included if `closed`; `mid / den` is the number. -/
structure Interval where
  /-- The lower end. -/
  low : Nat
  /-- The number itself. -/
  mid : Nat
  /-- The upper end. -/
  high : Nat
  /-- The common denominator. -/
  den : Nat
  /-- Whether the ends belong to the interval. -/
  closed : Bool

/-- The interval of a positive number `m · 2 ^ e`: half the distance to each neighbour.  Below a
power of two the neighbours lie twice as close. -/
def interval (m : Nat) (e : Int) : Interval :=
  let below := if m = leastSignificand && -1074 < e then 1 else 2
  let up := (e - 2).toNat
  { low := (4 * m - below) <<< up, mid := (4 * m) <<< up, high := (4 * m + 2) <<< up
    den := 1 <<< (2 - e).toNat, closed := m % 2 = 0 }

/-- Whether `n · 10 ^ power` lies in the interval. -/
def Interval.holds (i : Interval) (n : Nat) (power : Int) : Bool :=
  let x := n * powerOfTen power.toNat * i.den
  let scale := powerOfTen (-power).toNat
  if i.closed then i.low * scale ≤ x && x ≤ i.high * scale
  else i.low * scale < x && x < i.high * scale

/-- Twice the distance of the number from the grid point `n · 10 ^ power` below it, over the
distance of two grid points; only its comparison with one matters. -/
def Interval.compareHalf (i : Interval) (n : Nat) (power : Int) : Ordering :=
  let scale := powerOfTen (-power).toNat
  let step := powerOfTen power.toNat * i.den
  compare (2 * (i.mid * scale - n * step)) step

/-- The number on the grid of multiples of `10 ^ power` that is chosen for the interval: the one of
the two around the number that lies in the interval, of two the nearer, of two equally near the
even one. -/
def Interval.pick? (i : Interval) (power : Int) : Option Nat :=
  let n := i.mid * powerOfTen (-power).toNat / (powerOfTen power.toNat * i.den)
  match i.holds n power, i.holds (n + 1) power with
  | false, false => none
  | true, false => some n
  | false, true => some (n + 1)
  | true, true =>
    match i.compareHalf n power with
    | .lt => some n
    | .gt => some (n + 1)
    | .eq => some (if n % 2 = 0 then n else n + 1)

/-- The place of the first significant digit: the number lies below `10 ^ place` and, for a positive
place, not below `10 ^ (place - 1)`. -/
def Interval.place (i : Interval) : Int :=
  if i.den ≤ i.mid then ((Nat.toDigits 10 (i.mid / i.den)).length : Int)
  else 1 - ((Nat.toDigits 10 (i.den / i.mid)).length : Int)

/-- Looks for a grid with a number in the interval, `fuel` grids at most, each ten times finer than
the one before. -/
def Interval.search (i : Interval) : Nat → Int → Nat × Int
  | 0, power => ((i.pick? power).getD 0, power)
  | fuel + 1, power =>
    match i.pick? power with
    | some n => (n, power)
    | none => i.search fuel (power - 1)

/-- The shortest decimal `n · 10 ^ power` that reads back as the positive number `m · 2 ^ e`. -/
def shortest (m : Nat) (e : Int) : Nat × Int :=
  let i := interval m e
  i.search 20 i.place

/-- The digits of `n` without the zeros at its end, and the place of the point counted from the
front of the digits, for the number `n · 10 ^ power`. -/
def significant (n : Nat) (power : Int) : List Char × Int :=
  let digits := Nat.toDigits 10 n
  ((digits.reverse.dropWhile (· = '0')).reverse, digits.length + power)

/-- The places of the point at which a number is still written positionally. -/
def isPositional (point : Int) : Bool := -4 < point && point ≤ 16

/-- The exponent in scientific notation: a sign and at least two digits. -/
def exponentText (e : Int) : String :=
  let digits := Nat.repr e.natAbs
  (if e < 0 then "-" else "+") ++ (if digits.length < 2 then "0" else "") ++ digits

/-- The text of `0.digits · 10 ^ point`. -/
def layout (digits : List Char) (point : Int) : String :=
  if isPositional point then
    if point ≤ 0 then
      "0." ++ String.ofList (List.replicate (-point).toNat '0' ++ digits)
    else
      let whole := digits.take point.toNat
      let fraction := digits.drop point.toNat
      String.ofList (whole ++ List.replicate (point.toNat - whole.length) '0') ++ "." ++
        (if fraction.isEmpty then "0" else String.ofList fraction)
  else
    let fraction := digits.drop 1
    String.ofList (digits.take 1) ++
      (if fraction.isEmpty then "" else "." ++ String.ofList fraction) ++
      "e" ++ exponentText (point - 1)

/-- The text of a number. -/
def text : Binary64 → String
  | .nan => "nan"
  | .infinity negative => if negative then "-inf" else "inf"
  | .finite negative m e =>
    let body :=
      if m = 0 then "0.0"
      else
        let (n, power) := shortest m e
        let (digits, point) := significant n power
        layout digits point
    if negative then "-" ++ body else body

example : (ofText? "3.8".toList).map text = some "3.8" := by decide +kernel
example : (ofText? "1e22".toList).map text = some "1e+22" := by decide +kernel
example : (ofText? "0.00001".toList).map text = some "1e-05" := by decide +kernel

end Binary64

end Vitae.Decimal
