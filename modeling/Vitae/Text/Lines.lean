/-!
# Lines

Two ways to cut a text: at every line break, where a break that ends the text starts no further
line, and at one separating character, where every piece counts.
-/

namespace Vitae.Text

/-- The characters that end a line. -/
def isLineBreak (c : Char) : Bool :=
  let n := c.toNat
  (0xa ≤ n && n ≤ 0xd) || (0x1c ≤ n && n ≤ 0x1e) || n == 0x85 || n == 0x2028 || n == 0x2029

/-- Adds a character in front of the first of the pieces. -/
def extendFirst (c : Char) : List (List Char) → List (List Char)
  | [] => [[c]]
  | piece :: pieces => (c :: piece) :: pieces

/-- The lines of a text, without their breaks.  A carriage return and the line feed after it are one
break. -/
def linesChars : List Char → List (List Char)
  | [] => []
  | '\r' :: '\n' :: rest => [] :: linesChars rest
  | c :: rest => if isLineBreak c then [] :: linesChars rest else extendFirst c (linesChars rest)

/-- The pieces of a text between the occurrences of `sep`; there is always at least one. -/
def splitChars (sep : Char) : List Char → List (List Char)
  | [] => [[]]
  | c :: rest => if c = sep then [] :: splitChars sep rest else extendFirst c (splitChars sep rest)

/-- The lines of a text, without their breaks. -/
def lines (s : String) : List String := (linesChars s.toList).map String.ofList

/-- The pieces of a text between the occurrences of `sep`. -/
def split (sep : Char) (s : String) : List String := (splitChars sep s.toList).map String.ofList

/-- The text with every carriage return, and the line feed that may follow it, as one line feed. -/
def unifyBreaks : List Char → List Char
  | [] => []
  | '\r' :: '\n' :: rest => '\n' :: unifyBreaks rest
  | c :: rest => (if c = '\r' then '\n' else c) :: unifyBreaks rest

/-- Cutting a text always gives a piece. -/
theorem splitChars_ne_nil (sep : Char) (cs : List Char) : splitChars sep cs ≠ [] := by
  cases cs with
  | nil => simp [splitChars]
  | cons c rest =>
    rw [splitChars]
    split
    · simp
    · cases splitChars sep rest <;> simp [extendFirst]

end Vitae.Text
