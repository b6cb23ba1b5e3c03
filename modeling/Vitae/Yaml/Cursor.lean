/-!
# Reading positions in a YAML text

A cursor is the text that is still to be read, with the line and the column where it begins.  The
end of the text is seen as the character NUL, which no YAML text holds.
-/

namespace Vitae.Yaml

/-- Why a text is no YAML document that can be used. -/
inductive Fault where
  /-- A character that no YAML text may hold. -/
  | character
  /-- A place where no token can be read, with its line. -/
  | token (line : Nat)
  /-- Tokens that do not fit together. -/
  | parts
  /-- A second document. -/
  | documents
  /-- An alias without anchor, or an anchor that is set twice. -/
  | anchor (name : String)
  /-- Too many aliases. -/
  | aliases
  /-- Values that are nested too deep, or in themselves. -/
  | depth
  /-- A value that its tag does not allow. -/
  | value (tag : String)
  /-- A key that stands twice. -/
  | duplicate (name : String)
  /-- A value that cannot be a key. -/
  | key
  /-- A document that is neither mapping nor list nor text. -/
  | shape
  /-- A reference that cannot be read, or that names nothing. -/
  | reference (text : String)
  deriving DecidableEq, Repr

/-- The wording of a fault. -/
def Fault.message : Fault → String
  | .character => "control characters are not allowed"
  | .token line => "no token can be read in line " ++ Nat.repr (line + 1)
  | .parts => "the parts of the document do not fit together"
  | .documents => "expected a single document"
  | .anchor name => "an alias or anchor cannot be used: " ++ name
  | .aliases => "the document has too many aliases"
  | .depth => "the values of the document are nested too deep"
  | .value tag => "a value does not fit its tag " ++ tag
  | .duplicate name => "found duplicate key " ++ name
  | .key => "a value cannot be a key"
  | .shape => "the document is neither a mapping nor a list nor a text"
  | .reference text => "a reference cannot be used: " ++ text

/-- Whether a YAML text may hold a character. -/
def isAllowed (c : Char) : Bool :=
  let n := c.toNat
  n == 0x9 || n == 0xa || n == 0xd || (0x20 ≤ n && n ≤ 0x7e) || n == 0x85 ||
    (0xa0 ≤ n && n ≤ 0xd7ff) || (0xe000 ≤ n && n ≤ 0xfffd) || 0x10000 ≤ n

/-- The character that stands for the end of the text. -/
def endMark : Char := '\x00'

/-- Whether a character ends a line. -/
def isBreak (c : Char) : Bool :=
  c = '\r' || c = '\n' || c = '\u0085' || c = '\u2028' || c = '\u2029'

/-- Whether a character is a space or a tab. -/
def isSpace (c : Char) : Bool := c = ' ' || c = '\t'

/-- Whether a character ends a line or the text. -/
def isBreakOrEnd (c : Char) : Bool := isBreak c || c = endMark

/-- Whether a character ends a word: a space, a tab, a line break or the end of the text. -/
def isGapOrEnd (c : Char) : Bool := isSpace c || isBreakOrEnd c

/-- Whether a character may stand in the name of an anchor. -/
def isNameChar (c : Char) : Bool := c.isAlphanum || c = '_' || c = '-'

/-- A position in a text. -/
structure Cursor where
  /-- The text from there on. -/
  rest : List Char
  /-- The number of characters before it. -/
  index : Nat := 0
  /-- The number of lines before it. -/
  line : Nat := 0
  /-- The number of characters before it in its line. -/
  column : Nat := 0
  /-- The number of characters of the whole text. -/
  size : Nat
  deriving Repr, Inhabited

namespace Cursor

/-- The position at the beginning of a text. -/
def ofText (cs : List Char) : Cursor := { rest := cs, size := cs.length }

/-- A bound for the number of steps of a reading in which every step but the last takes a character.
-/
def limit (c : Cursor) : Nat := c.size + 1

/-- The character at a distance from the position. -/
def ahead (c : Cursor) (n : Nat) : Char := (c.rest.drop n).headD endMark

/-- The character at the position. -/
def peek (c : Cursor) : Char := c.rest.headD endMark

/-- The position behind the next character. -/
def skip (c : Cursor) : Cursor :=
  { c with rest := c.rest.tail, index := c.index + 1, column := c.column + 1 }

/-- The position behind the next `n` characters. -/
def skipMany (c : Cursor) (n : Nat) : Cursor :=
  { c with rest := c.rest.drop n, index := c.index + n, column := c.column + n }

/-- The line break at the position, as the character that stands for it, and the position behind it;
carriage return and line feed together are one. -/
def takeBreak? (c : Cursor) : Option (Char × Cursor) :=
  let next (n : Nat) : Cursor :=
    { c with rest := c.rest.drop n, index := c.index + n, line := c.line + 1, column := 0 }
  if c.peek = '\r' && c.ahead 1 = '\n' then some ('\n', next 2)
  else if c.peek = '\u2028' || c.peek = '\u2029' then some (c.peek, next 1)
  else if isBreak c.peek then some ('\n', next 1)
  else none

/-- The position behind the line break, if there is one. -/
def skipBreak (c : Cursor) : Cursor := (c.takeBreak?.map Prod.snd).getD c

/-- The characters up to the first that fails a test, and the position there. -/
def takeWhile (test : Char → Bool) (c : Cursor) : List Char × Cursor :=
  let taken := c.rest.takeWhile test
  (taken, c.skipMany taken.length)

/-- The position of the first character that fails a test. -/
def skipWhile (test : Char → Bool) (c : Cursor) : Cursor := (c.takeWhile test).2

/-- The position at the end of the line, if only a comment and blanks stand before it. -/
def skipLineRest? (c : Cursor) : Option Cursor :=
  let c := c.skipWhile isSpace
  let c := if c.peek = '#' then c.skipWhile (!isBreak ·) else c
  if isBreakOrEnd c.peek then some c else none

/-- Whether a marker of a document, three equal characters at the beginning of a line, stands at the
position. -/
def isMarker (mark : Char) (c : Cursor) : Bool :=
  c.column = 0 && c.peek = mark && c.ahead 1 = mark && c.ahead 2 = mark && isGapOrEnd (c.ahead 3)

/-- Whether a document begins or ends at the position. -/
def isDocumentMarker (c : Cursor) : Bool := c.isMarker '-' || c.isMarker '.'

end Cursor

end Vitae.Yaml
