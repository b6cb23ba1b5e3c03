import Vitae.Decimal.Binary64
import Vitae.Decimal.Integer

/-!
# Numbers

The values of scalars that stand for numbers.  Underscores do not count.  Integers may be binary,
octal, hexadecimal, decimal or in base sixty; floating point numbers may be in base sixty too.
-/

namespace Vitae.Yaml

open Text Decimal

/-- The value of a digit in bases up to sixteen. -/
def digitValue? (c : Char) : Option Nat :=
  match decimalValue? c with
  | some d => some d
  | none =>
    if 'a' ≤ c ∧ c ≤ 'f' then some (c.toNat - 87)
    else if 'A' ≤ c ∧ c ≤ 'F' then some (c.toNat - 55)
    else none

/-- The number that digits of a base spell; there must be at least one. -/
def basedNatural? (base : Nat) (cs : List Char) : Option Nat :=
  if cs.isEmpty then none
  else cs.foldl (fun n c => do
    let n ← n
    let d ← digitValue? c
    if d < base then some (base * n + d) else none) (some 0)

/-- The letter that marks a base. -/
def baseMark (base : Nat) : Char := if base = 2 then 'b' else if base = 8 then 'o' else 'x'

/-- A text without the mark of the base in front, if it has one. -/
def dropBaseMark (base : Nat) (cs : List Char) : List Char :=
  match cs with
  | '0' :: mark :: rest => if mark.toLower = baseMark base then rest else cs
  | _ => cs

/-- The integer that a text spells in base two, eight or sixteen. -/
def basedInteger? (base : Nat) (cs : List Char) : Option Int :=
  match dropMargins cs with
  | '-' :: rest => (basedNatural? base (dropBaseMark base rest)).map fun n => -(n : Int)
  | '+' :: rest => (basedNatural? base (dropBaseMark base rest)).map fun n => (n : Int)
  | rest => (basedNatural? base (dropBaseMark base rest)).map fun n => (n : Int)

/-- The integer that a text without sign spells. -/
def unsignedInteger? (cs : List Char) : Option Int :=
  match cs with
  | ['0'] => some 0
  | '0' :: 'b' :: rest => basedInteger? 2 rest
  | '0' :: 'x' :: rest => basedInteger? 16 rest
  | '0' :: _ => basedInteger? 8 cs
  | _ =>
    if cs.contains ':' then
      ((splitChars ':' cs).mapM integer?).map fun parts => parts.foldl (fun n d => 60 * n + d) 0
    else integer? cs

/-- A text cut into its sign and the rest. -/
def takeSign (cs : List Char) : Bool × List Char :=
  match cs with
  | '-' :: rest => (true, rest)
  | '+' :: rest => (false, rest)
  | _ => (false, cs)

/-- The integer that the text of a scalar spells. -/
def scalarInteger? (cs : List Char) : Option Int :=
  let (negative, rest) := takeSign (cs.filter (· ≠ '_'))
  if rest.isEmpty then none
  else (unsignedInteger? rest).map fun n => if negative then -n else n

/-- The character with a decimal digit of any script as the digit of ASCII. -/
def toAsciiDigit (c : Char) : Char :=
  match decimalValue? c with
  | some d => Nat.digitChar d
  | none => c

/-- The floating point number that a text spells. -/
def real? (cs : List Char) : Option Binary64 :=
  let cs := (dropMargins cs).map toAsciiDigit
  let (negative, rest) := takeSign cs
  if rest = "infinity".toList then some (.infinity negative) else Binary64.ofText? cs

/-- The sum of the parts of a number in base sixty, least part first; `weight` is that of the first.
There is none if a weight is beyond all floating point numbers. -/
def sumParts? : List Binary64 → Nat → Binary64 → Option Binary64
  | [], _, total => some total
  | part :: parts, weight, total =>
    match Binary64.ofRatio false weight 1 with
    | .infinity _ => none
    | w => sumParts? parts (60 * weight) (total.sum (part.multiply w))

/-- The floating point number that a text without sign spells. -/
def unsignedReal? (cs : List Char) : Option Binary64 :=
  if cs = ".inf".toList then some (.infinity false)
  else if cs = ".nan".toList then some .nan
  else if cs.contains ':' then
    ((splitChars ':' cs).mapM real?).bind fun parts =>
      sumParts? parts.reverse 1 (.ofRatio false 0 1)
  else real? cs

/-- The text of a floating point number in small letters and without underscores, cut into its sign
and the rest. -/
def takeRealSign (cs : List Char) : Bool × List Char :=
  takeSign (cs.filterMap fun c => if c = '_' then none else some c.toLower)

/-- The floating point number that the text of a scalar spells. -/
def scalarReal? (cs : List Char) : Option Binary64 :=
  let (negative, rest) := takeRealSign cs
  if rest.isEmpty then none
  else (unsignedReal? rest).map fun x => if negative then x.negate else x

/-- Whether the text of a scalar is the name of the value that is not a number, so that it stands
for one and the same value wherever it is written. -/
def namesNan (cs : List Char) : Bool := (takeRealSign cs).2 = ".nan".toList

example : ["-0b11", "017", "0x1_F", "1:30", "0"].map (scalarInteger? ·.toList) =
    [some (-3), some 15, some 31, some 90, some 0] := by decide +kernel
example : scalarReal? "1:30.5".toList = scalarReal? "90.5".toList := by decide +kernel

end Vitae.Yaml
