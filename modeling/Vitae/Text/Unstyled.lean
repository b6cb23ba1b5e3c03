/-!
# Text without terminal sequences

A terminal takes an escape character, a bracket, parameters and a letter for a command, such as one
that changes the colour.  What is printed is plain text, in which no such sequence is left.
-/

namespace Vitae.Text

/-- The character that begins a sequence. -/
def escapeMark : Char := '\x1b'

/-- Whether a character belongs to the parameters of a sequence. -/
def isParameter (c : Char) : Bool := c.isDigit || c = ';' || c = '?'

/-- Whether a character carries on with what may become a sequence, given last character first. -/
def carriesOn : List Char → Char → Bool
  | [], c => c = escapeMark
  | [_], c => c = '['
  | _, c => isParameter c

/-- Whether a character ends a sequence, whose characters are given last one first. -/
def endsSequence : List Char → Char → Bool
  | _ :: _ :: _, c => c.isAlpha
  | _, _ => false

/-- Removes the sequences of a text.  `held` is what may become a sequence, last character first; it
is empty outside of one. -/
def unstyledFrom (held : List Char) : List Char → List Char
  | [] => held.reverse
  | c :: rest =>
    if carriesOn held c then unstyledFrom (c :: held) rest
    else if endsSequence held c then unstyledFrom [] rest
    else if c = escapeMark then held.reverse ++ unstyledFrom [c] rest
    else held.reverse ++ c :: unstyledFrom [] rest

/-- The text without terminal sequences. -/
def unstyled (s : String) : String := String.ofList (unstyledFrom [] s.toList)

example : unstyled "a\x1b[1;31mb\x1b[0m" = "ab" := by decide +kernel
example : unstyled "\x1b[?25 \x1b\x1b[Kx\x1b[" = "\x1b[?25 \x1bx\x1b[" := by decide +kernel

end Vitae.Text
