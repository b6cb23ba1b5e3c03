/-!
# Percent encoding

The target of a link holds only characters that need no quoting.  Any other character stands there
as the bytes of its UTF-8 form, each written `%XX`.
-/

namespace Vitae.Text

/-- The marks that a link target keeps, beside letters and digits. -/
def targetMarks : List Char := "_.-~:/?&=#%+,;@!$'()*".toList

/-- Whether a link target keeps a character as it is: the letters and digits of ASCII and some
marks.  The percent sign is kept, so that text which is already encoded stays as it is. -/
def isTargetChar (c : Char) : Bool := c.isAlphanum || targetMarks.contains c

/-- A hexadecimal digit, upper case. -/
def hexDigitUpper (n : Nat) : Char := (Nat.digitChar n).toUpper

/-- A byte as `%XX`. -/
def percentByte (b : UInt8) : List Char :=
  ['%', hexDigitUpper (b.toNat / 16), hexDigitUpper (b.toNat % 16)]

/-- A character of a link target. -/
def targetChar (c : Char) : List Char :=
  if isTargetChar c then [c] else (String.utf8EncodeChar c).flatMap percentByte

/-- A link target for the given text. -/
def targetChars (cs : List Char) : List Char := cs.flatMap targetChar

/-- A link target for the given text. -/
def linkTarget (s : String) : String := String.ofList (targetChars s.toList)

example : linkTarget "a b\u00e9%20" = "a%20b%C3%A9%20" := by decide +kernel

end Vitae.Text
