import Vitae.Text.Printable

/-!
# Quoted literals

A text or a string of bytes between quotes, with escapes for what cannot be shown.  Single quotes
are taken unless the content holds a single quote and no double quote.
-/

namespace Vitae.Text

/-- The hexadecimal digits of `n`, lower case, padded with zeros to `width`. -/
def hexPadded (width n : Nat) : String :=
  let digits := Nat.toDigits 16 n
  String.ofList (List.replicate (width - digits.length) '0' ++ digits)

/-- The quote that encloses the content. -/
def chooseQuote (cs : List Char) : Char :=
  if cs.contains '\'' && !cs.contains '"' then '"' else '\''

/-- One character inside a literal. -/
def quoteChar (quote c : Char) : String :=
  if c = quote || c = '\\' then String.ofList ['\\', c]
  else if c = '\t' then "\\t"
  else if c = '\n' then "\\n"
  else if c = '\r' then "\\r"
  else if isPrintable c then String.singleton c
  else
    let n := c.toNat
    if n ≤ 0xff then "\\x" ++ hexPadded 2 n
    else if n ≤ 0xffff then "\\u" ++ hexPadded 4 n
    else "\\U" ++ hexPadded 8 n

/-- The literal of a text. -/
def quoted (s : String) : String :=
  let quote := chooseQuote s.toList
  String.singleton quote ++ String.join (s.toList.map (quoteChar quote)) ++ String.singleton quote

/-- The literal of a string of bytes; a byte outside ASCII is always escaped. -/
def quotedBytes (bytes : List UInt8) : String :=
  let cs := bytes.map fun b => Char.ofNat b.toNat
  let quote := chooseQuote cs
  let one (c : Char) : String :=
    if c.toNat < 0x80 then quoteChar quote c else "\\x" ++ hexPadded 2 c.toNat
  "b" ++ String.singleton quote ++ String.join (cs.map one) ++ String.singleton quote

example : quoted "it's" = "\"it's\"" := by decide +kernel
example : quoted "a\nb" = "'a\\nb'" := by decide +kernel

end Vitae.Text
