import Vitae.Text.Blank
import Vitae.Text.Digit
import Vitae.Text.Lines

/-!
# Reading integers

An integer may be written with the decimal digits of any script, with a sign, with single
underscores between digits, and with blanks around it.
-/

namespace Vitae.Decimal

open Text

/-- The number that a list of digits, most significant first, stands for. -/
def ofDigits (digits : List Nat) : Nat := digits.foldl (fun n d => 10 * n + d) 0

/-- How many digits an integer may have. -/
def digitLimit : Nat := 4300

/-- The blanks that may surround an integer; the four separators of ASCII may not. -/
def isMargin (c : Char) : Bool := isBlank c && !(0x1c ≤ c.toNat && c.toNat ≤ 0x1f)

/-- The text without the blanks around it. -/
def dropMargins (cs : List Char) : List Char :=
  ((cs.dropWhile isMargin).reverse.dropWhile isMargin).reverse

/-- The values of a group of digits; there must be at least one. -/
def groupDigits? : List Char → Option (List Nat)
  | [] => none
  | cs => cs.mapM decimalValue?

/-- The values of the digits of an unsigned integer, in which an underscore separates two digits. -/
def digits? (cs : List Char) : Option (List Nat) :=
  ((splitChars '_' cs).mapM groupDigits?).map List.flatten

/-- The number that unsigned text spells, unless it has too many digits. -/
def natural? (cs : List Char) : Option Nat :=
  (digits? cs).bind fun ds => if ds.length ≤ digitLimit then some (ofDigits ds) else none

/-- The number that a text spells. -/
def integer? (cs : List Char) : Option Int :=
  match dropMargins cs with
  | '-' :: rest => (natural? rest).map fun n => -(n : Int)
  | '+' :: rest => (natural? rest).map fun n => (n : Int)
  | rest => (natural? rest).map fun n => (n : Int)

example : integer? " -1_0 ".toList = some (-10) := by decide +kernel
example : integer? "1__0".toList = none := by decide +kernel

end Vitae.Decimal
