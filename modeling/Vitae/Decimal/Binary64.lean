/-!
# Floating point numbers of 64 bits

A number read from decimal text is rounded to the nearest number with a significand of 53 bits and
an exponent in the range of the format, ties to the even significand.  Numbers are kept as the pair
of significand and exponent, so equality is decidable and nothing depends on machine arithmetic.
-/

namespace Vitae.Decimal

/-- A floating point number.  `finite negative m e` is `m · 2 ^ e`, negated if so marked; it is in
normal form: either `2 ^ 52 ≤ m < 2 ^ 53`, or `e = -1074` and `m < 2 ^ 52`. -/
inductive Binary64 where
  /-- Not a number. -/
  | nan
  /-- An infinity of either sign. -/
  | infinity (negative : Bool)
  /-- A number in normal form. -/
  | finite (negative : Bool) (significand : Nat) (exponent : Int)
  deriving DecidableEq, Repr, Inhabited

namespace Binary64

/-- The power of ten with the exponent `n`. -/
def powerOfTen (n : Nat) : Nat := Nat.pow 10 n

/-- The least significand of 53 bits, `2 ^ 52`. -/
def leastSignificand : Nat := 4503599627370496

/-- The quotient rounded to the nearest integer, a half to the even neighbour. -/
def roundHalfEven (num den : Nat) : Nat :=
  let q := num / den
  let twice := 2 * (num % den)
  if twice < den then q else if den < twice then q + 1 else if q % 2 = 0 then q else q + 1

/-- The integer `k` with `2 ^ k ≤ num / den < 2 ^ (k + 1)`, for positive arguments. -/
def floorLog2 (num den : Nat) : Int :=
  let k : Int := (num.log2 : Int) - den.log2
  let atLeast := if 0 ≤ k then den <<< k.toNat ≤ num else den ≤ num <<< (-k).toNat
  if atLeast then k else k - 1

/-- The number nearest to `num / den`, for a positive `den`. -/
def ofRatio (negative : Bool) (num den : Nat) : Binary64 :=
  if num = 0 then .finite negative 0 (-1074)
  else
    let e := max (floorLog2 num den - 52) (-1074)
    let m := if 0 ≤ e then roundHalfEven num (den <<< e.toNat)
      else roundHalfEven (num <<< (-e).toNat) den
    let (m, e) := if m = 2 * leastSignificand then (leastSignificand, e + 1) else (m, e)
    if 971 < e then .infinity negative else .finite negative m e

/-- The number nearest to `digits · 10 ^ power`.  Where the size alone tells that the result is
infinite or zero, no power is computed. -/
def ofDecimal (negative : Bool) (digits : Nat) (power : Int) : Binary64 :=
  let size : Int := (Nat.toDigits 10 digits).length + power
  if digits = 0 || size < -330 then .finite negative 0 (-1074)
  else if 310 < size then .infinity negative
  else if 0 ≤ power then ofRatio negative (digits * powerOfTen power.toNat) 1
  else ofRatio negative digits (powerOfTen (-power).toNat)

/-- Whether the number is a zero of either sign. -/
def isZero : Binary64 → Bool
  | .finite _ m _ => m == 0
  | _ => false

/-- The integer that the number equals, if there is one. -/
def integer? : Binary64 → Option Int
  | .finite negative m e =>
    let whole : Option Nat :=
      if 0 ≤ e then some (m <<< e.toNat)
      else if (m >>> (-e).toNat) <<< (-e).toNat = m then some (m >>> (-e).toNat) else none
    whole.map fun n => if negative then -(n : Int) else n
  | _ => none

/-! ### Arithmetic -/

/-- The number with the other sign. -/
def negate : Binary64 → Binary64
  | .nan => .nan
  | .infinity negative => .infinity (!negative)
  | .finite negative m e => .finite (!negative) m e

/-- The number nearest to `m · 2 ^ e`. -/
def ofScaled (negative : Bool) (m : Nat) (e : Int) : Binary64 :=
  if 0 ≤ e then ofRatio negative (m <<< e.toNat) 1 else ofRatio negative m (1 <<< (-e).toNat)

/-- The product of two numbers, rounded. -/
def multiply : Binary64 → Binary64 → Binary64
  | .finite s m e, .finite t n f => ofScaled (s != t) (m * n) (e + f)
  | .infinity s, .infinity t => .infinity (s != t)
  | .infinity s, .finite t n _ => if n = 0 then .nan else .infinity (s != t)
  | .finite s m _, .infinity t => if m = 0 then .nan else .infinity (s != t)
  | _, _ => .nan

/-- The sum of two numbers, rounded.  A sum of zero is negative only if both numbers are negative
zeros. -/
def sum : Binary64 → Binary64 → Binary64
  | .finite s m e, .finite t n f =>
    let low := min e f
    let a : Int := (m <<< (e - low).toNat : Nat)
    let b : Int := (n <<< (f - low).toNat : Nat)
    let total := (if s then -a else a) + (if t then -b else b)
    if total = 0 then .finite (s && t) 0 (-1074) else ofScaled (total < 0) total.natAbs low
  | .infinity s, .infinity t => if s = t then .infinity s else .nan
  | .infinity s, .finite _ _ _ => .infinity s
  | .finite _ _ _, .infinity t => .infinity t
  | _, _ => .nan

/-! ### Reading decimal text -/

/-- The value of a digit of ASCII. -/
def asciiDigit? (c : Char) : Option Nat := if c.isDigit then some (c.toNat - 48) else none

/-- The leading digits of a text, and what follows them. -/
def takeDigits : List Char → List Nat × List Char
  | [] => ([], [])
  | c :: rest =>
    match asciiDigit? c with
    | some d => (d :: (takeDigits rest).1, (takeDigits rest).2)
    | none => ([], c :: rest)

/-- The power of ten after a significand: nothing, or `e` and a signed integer. -/
def readPower? : List Char → Option Int
  | [] => some 0
  | c :: rest =>
    if c = 'e' || c = 'E' then
      let (negative, rest) : Bool × List Char := match rest with
        | '-' :: r => (true, r)
        | '+' :: r => (false, r)
        | r => (false, r)
      match takeDigits rest with
      | ([], _) => none
      | (ds, []) =>
        let n : Nat := ds.foldl (fun n d => 10 * n + d) 0
        some (if negative then -(n : Int) else n)
      | (_, _ :: _) => none
    else none

/-- An unsigned decimal number: digits with an optional point among or around them, and an optional
power of ten. -/
def readUnsigned? (negative : Bool) (cs : List Char) : Option Binary64 :=
  let (whole, rest) := takeDigits cs
  let (fraction, rest) := match rest with
    | '.' :: r => takeDigits r
    | r => ([], r)
  if whole.isEmpty && fraction.isEmpty then none
  else (readPower? rest).map fun power =>
    ofDecimal negative ((whole ++ fraction).foldl (fun n d => 10 * n + d) 0)
      (power - fraction.length)

/-- The number that a text spells: a signed decimal number, `inf` or `nan`. -/
def ofText? (cs : List Char) : Option Binary64 :=
  let (negative, rest) : Bool × List Char := match cs with
    | '-' :: r => (true, r)
    | '+' :: r => (false, r)
    | r => (false, r)
  if rest = "inf".toList then some (.infinity negative)
  else if rest = "nan".toList then some .nan
  else readUnsigned? negative rest

end Binary64

end Vitae.Decimal
