import Vitae.Datum
import Vitae.Text.Search
import Vitae.Yaml.Cursor

/-!
# Expressions

A text may refer to other values of its document with `${…}`: to a value by the keys on the way to
it, from the root of the document or, with leading dots, from a mapping around the text; or to what
a named function gives for arguments.  An argument is a word, a quoted text, a list or a mapping,
and may hold references itself.  A backslash in front of a reference makes it plain text.
-/

namespace Vitae.Yaml

open Text Decimal

/-- A part of a text with references, or an argument of a function. -/
inductive Piece where
  /-- A value that is written out. -/
  | value (d : Datum)
  /-- A reference by keys; the pieces of its keys and the marks between them make up its text. -/
  | reference (key : List Piece)
  /-- A call of a function, whose name is made up of pieces. -/
  | call (name : List Piece) (arguments : List Piece)
  /-- A text that is made up of pieces. -/
  | joined (parts : List Piece)
  /-- A list. -/
  | list (items : List Piece)
  /-- A mapping. -/
  | map (pairs : List (Piece × Piece))
  deriving Repr, Inhabited

namespace Piece

/-- A piece of plain text. -/
def chars (cs : List Char) : Piece := .value (.text (String.ofList cs))

/-! ### Characters -/

/-- What begins a reference. -/
def openMark : List Char := ['$', '\x7b']

/-- Whether a reference begins at a position. -/
def isOpen : List Char → Bool
  | '$' :: '\x7b' :: _ => true
  | _ => false

/-- The text without the blanks in front. -/
def skipSpaces (cs : List Char) : List Char := cs.dropWhile isSpace

/-- The rest behind a character that has to be there. -/
def expect? (c : Char) : List Char → Option (List Char)
  | [] => none
  | d :: rest => if c = d then some rest else none

/-- Whether a character stands in a key only behind a backslash. -/
def isKeyMark (c : Char) : Bool := "\\\x7b\x7d()[]:. \t'\"".toList.contains c

/-- Cuts a text into the key at its front, with its backslashes, and the rest. -/
def takeKey : List Char → List Char × List Char
  | '\\' :: c :: rest =>
    if isKeyMark c then
      let (key, rest) := takeKey rest
      ('\\' :: c :: key, rest)
    else ([], '\\' :: c :: rest)
  | c :: rest =>
    if isKeyMark c then ([], c :: rest)
    else
      let (key, rest) := takeKey rest
      (c :: key, rest)
  | [] => ([], [])

/-- Whether the name of a function may begin with a character. -/
def startsName (c : Char) : Bool := c.isAlpha || c = '_'

/-- Cuts a text into the identifier at its front and the rest. -/
def takeName? : List Char → Option (List Char × List Char)
  | [] => none
  | c :: rest =>
    if startsName c then some (c :: rest.takeWhile isNameChar, rest.dropWhile isNameChar) else none

/-- Whether a character may stand in a word. -/
def isWordChar (c : Char) : Bool :=
  c.isAlphanum || isSpace c || "_-/+.$%*@?|:\\".toList.contains c

/-- Whether a backslash takes the meaning from a character of a word. -/
def isEscapable (c : Char) : Bool := "()[]\x7b\x7d:=, \t\\".toList.contains c

/-! ### Words -/

/-- Whether a text is a run of digits with single underscores between them. -/
def isDigits (cs : List Char) : Bool :=
  (splitChars '_' cs).all fun group => !group.isEmpty && group.all Char.isDigit

/-- Whether a text is an integer without sign: a run of digits that begins with zero only if it is
zero. -/
def isNatural (cs : List Char) : Bool := isDigits cs && (cs = ['0'] || cs.head? ≠ some '0')

/-- Whether a text is a number without sign with a point. -/
def isPointed (cs : List Char) : Bool :=
  match breakAt? ['.'] cs with
  | none => false
  | some (whole, fraction) =>
    if fraction.isEmpty then isNatural whole
    else (whole.isEmpty || isNatural whole) && isDigits fraction

/-- Whether a text is a floating point number without sign. -/
def isReal (cs : List Char) : Bool :=
  let word := String.ofList (cs.map Char.toLower)
  let rest := cs.dropWhile fun c => c ≠ 'e' && c ≠ 'E'
  let whole := cs.take (cs.length - rest.length)
  word = "inf" || word = "nan" || isPointed cs ||
    match rest with
    | [] => false
    | _ :: '+' :: power => (isNatural whole || isPointed whole) && isDigits power
    | _ :: '-' :: power => (isNatural whole || isPointed whole) && isDigits power
    | _ :: power => (isNatural whole || isPointed whole) && isDigits power

/-- The value of a word without escapes: a number, a truth value, nothing, or a text. -/
def wordValue (cs : List Char) : Datum :=
  let unsigned := match cs with
    | '-' :: rest => rest
    | '+' :: rest => rest
    | rest => rest
  let small := (cs.filter (· ≠ '_')).map Char.toLower
  if isNatural unsigned then ((integer? cs).map Datum.int).getD (.text (String.ofList cs))
  else if isReal unsigned then
    ((Binary64.ofText? small).map Datum.float).getD (.text (String.ofList cs))
  else
    match String.ofList (cs.map Char.toLower) with
    | "true" => .bool true
    | "false" => .bool false
    | "null" => .null
    | _ => .text (String.ofList cs)

/-- A step of a word. -/
inductive Bit where
  /-- A character. -/
  | char (c : Char)
  /-- A character behind a backslash. -/
  | escaped (c : Char)
  /-- A reference. -/
  | inner (p : Piece)
  deriving Repr, Inhabited

/-- The character of a step that is one without a backslash. -/
def Bit.char? : Bit → Option Char
  | .char c => some c
  | _ => none

/-- The piece that a step stands for. -/
def Bit.piece : Bit → Piece
  | .char c => chars [c]
  | .escaped c => chars [c]
  | .inner p => p

/-- The steps of a word without the blanks at its end. -/
def dropBlankEnd (bits : List Bit) : List Bit :=
  (bits.reverse.dropWhile fun b => b.char?.any isSpace).reverse

/-- The piece that a word stands for: its value, the reference that it is, or a text. -/
def ofWord (bits : List Bit) : Piece :=
  match bits.mapM Bit.char?, bits with
  | some cs, _ => .value (wordValue cs)
  | none, [.inner p] => p
  | none, bits => .joined (bits.map Bit.piece)

/-! ### Reading references -/

mutual

/-- Reads a reference behind its opening mark, up to its closing brace. -/
def read? : Nat → List Char → Option (Piece × List Char)
  | 0, _ => none
  | fuel + 1, cs =>
    match readKeys? fuel (skipSpaces cs) with
    | some r => some r
    | none => do
      let (name, rest) ← readName? fuel (skipSpaces cs)
      let rest ← expect? ':' (skipSpaces rest)
      let (arguments, rest) ← readItems? fuel '\x7d' rest
      some (.call name arguments, rest)

/-- Reads a reference by keys, from its dots on. -/
def readKeys? : Nat → List Char → Option (Piece × List Char)
  | 0, _ => none
  | fuel + 1, cs => do
    let dots := cs.takeWhile (· = '.')
    let (first, rest) ← readStep? fuel (cs.drop dots.length)
    let (others, rest) ← readSteps? fuel rest
    let rest ← expect? '\x7d' (skipSpaces rest)
    some (.reference (chars dots :: first ++ others), rest)

/-- Reads a key, which may stand in brackets. -/
def readStep? : Nat → List Char → Option (List Piece × List Char)
  | 0, _ => none
  | fuel + 1, cs =>
    match cs with
    | '[' :: rest => do
      let (key, rest) ← readKey? fuel rest
      some ([chars ['['], key, chars [']']], ← expect? ']' rest)
    | _ => (readKey? fuel cs).map fun r => ([r.1], r.2)

/-- Reads the keys behind the first: each with a dot in front, or in brackets. -/
def readSteps? : Nat → List Char → Option (List Piece × List Char)
  | 0, _ => none
  | fuel + 1, cs =>
    match cs with
    | '.' :: rest => do
      let (key, rest) ← readKey? fuel rest
      let (keys, rest) ← readSteps? fuel rest
      some (chars ['.'] :: key :: keys, rest)
    | '[' :: _ => do
      let (key, rest) ← readStep? fuel cs
      let (keys, rest) ← readSteps? fuel rest
      some (key ++ keys, rest)
    | _ => some ([], cs)

/-- Reads a key without brackets: a reference, or its characters. -/
def readKey? : Nat → List Char → Option (Piece × List Char)
  | 0, _ => none
  | fuel + 1, cs =>
    if isOpen cs then read? fuel (cs.drop 2)
    else
      let (key, rest) := takeKey cs
      if key.isEmpty then none else some (chars key, rest)

/-- Reads the name of a function: identifiers or references with dots between them. -/
def readName? : Nat → List Char → Option (List Piece × List Char)
  | 0, _ => none
  | fuel + 1, cs => do
    let (first, rest) ← if isOpen cs then read? fuel (cs.drop 2)
      else (takeName? cs).map fun r => (chars r.1, r.2)
    match rest with
    | '.' :: rest => do
      let (others, rest) ← readName? fuel rest
      some (first :: chars ['.'] :: others, rest)
    | _ => some ([first], rest)

/-- Reads arguments with commas between them, up to a closing character and behind it. -/
def readItems? : Nat → Char → List Char → Option (List Piece × List Char)
  | 0, _, _ => none
  | fuel + 1, close, cs =>
    match expect? close (skipSpaces cs) with
    | some rest => some ([], rest)
    | none => readMore? fuel close cs

/-- Reads an argument and those that follow it.  One that is missing is an empty text. -/
def readMore? : Nat → Char → List Char → Option (List Piece × List Char)
  | 0, _, _ => none
  | fuel + 1, close, cs =>
    match skipSpaces cs with
    | [] => none
    | c :: rest =>
      if c = close then some ([chars []], rest)
      else if c = ',' then (readMore? fuel close rest).map fun r => (chars [] :: r.1, r.2)
      else do
        let (item, rest) ← readItem? fuel true (c :: rest)
        match skipSpaces rest with
        | [] => none
        | d :: after =>
          if d = close then some ([item], after)
          else if d = ',' then (readMore? fuel close after).map fun r => (item :: r.1, r.2)
          else none

/-- Reads an argument: a quoted text, a list in brackets, a mapping in braces, or a word.  Where an
argument is `enclosed`, the blanks at the end of a word do not belong to it. -/
def readItem? : Nat → (enclosed : Bool) → List Char → Option (Piece × List Char)
  | 0, _, _ => none
  | _, _, [] => none
  | fuel + 1, enclosed, c :: rest =>
    if c = '\'' || c = '"' then (readQuoted? fuel c rest).map fun r => (.joined r.1, r.2)
    else if c = '[' then (readItems? fuel ']' rest).map fun r => (.list r.1, r.2)
    else if c = '\x7b' then (readPairs? fuel true rest).map fun r => (.map r.1, r.2)
    else do
      let (bits, after) ← readWord? fuel true (c :: rest)
      if bits.isEmpty then none
      else some (ofWord (if enclosed then dropBlankEnd bits else bits), after)

/-- Reads the pairs of a mapping, up to its closing brace and behind it. -/
def readPairs? : Nat → (first : Bool) → List Char → Option (List (Piece × Piece) × List Char)
  | 0, _, _ => none
  | fuel + 1, first, cs =>
    match skipSpaces cs with
    | '\x7d' :: rest => if first then some ([], rest) else none
    | cs => do
      let (bits, rest) ← readWord? fuel false cs
      if bits.isEmpty then none
      else
        let key := ofWord (dropBlankEnd bits)
        let rest ← expect? ':' (skipSpaces rest)
        let (item, rest) ← readItem? fuel true (skipSpaces rest)
        match skipSpaces rest with
        | '\x7d' :: rest => some ([(key, item)], rest)
        | ',' :: rest => (readPairs? fuel false rest).map fun r => ((key, item) :: r.1, r.2)
        | _ => none

/-- Reads a word.  Only one that is an `argument` may hold colons and references. -/
def readWord? : Nat → (argument : Bool) → List Char → Option (List Bit × List Char)
  | 0, _, _ => none
  | _, _, [] => some ([], [])
  | fuel + 1, argument, c :: rest =>
    let next (bit : Bit) (rest : List Char) : Option (List Bit × List Char) :=
      (readWord? fuel argument rest).map fun r => (bit :: r.1, r.2)
    if isOpen (c :: rest) then
      if argument then (read? fuel rest.tail).bind fun r => next (.inner r.1) r.2 else none
    else if c = '\\' && isEscapable (rest.headD endMark) then
      next (.escaped (rest.headD endMark)) rest.tail
    else if isWordChar c && (argument || c ≠ ':') then next (.char c) rest
    else some ([], c :: rest)

/-- Reads a quoted text, up to its closing quote and behind it.  Of the backslashes in front of a
quote or a reference each two stand for one, and one that is left over takes its meaning from it. -/
def readQuoted? : Nat → (quote : Char) → List Char → Option (List Piece × List Char)
  | 0, _, _ => none
  | _, _, [] => none
  | fuel + 1, quote, c :: rest =>
    let slashes := (c :: rest).takeWhile (· = '\\')
    let half := slashes.take (slashes.length / 2)
    let after := (c :: rest).drop slashes.length
    let next (cs rest : List Char) : Option (List Piece × List Char) :=
      (readQuoted? fuel quote rest).map fun r => (chars cs :: r.1, r.2)
    if isOpen after then
      if slashes.length % 2 = 1 then next (half ++ openMark) (after.drop 2)
      else do
        let (piece, rest) ← read? fuel (after.drop 2)
        let (others, rest) ← readQuoted? fuel quote rest
        some (chars half :: piece :: others, rest)
    else if after.head? = some quote then
      if slashes.length % 2 = 1 then next (half ++ [quote]) after.tail
      else some ([chars half], after.tail)
    else if slashes.isEmpty then next [c] rest
    else next slashes after

end

/-- The piece that a text alone stands for as an argument. -/
def ofArgument? (s : String) : Option Piece :=
  match readItem? (4 * s.length + 4) false s.toList with
  | some (piece, []) => some piece
  | _ => none

/-! ### Texts -/

/-- Puts plain characters in front of pieces. -/
def consChars (cs : List Char) : List Piece → List Piece
  | .value (.text s) :: pieces => chars (cs ++ s.toList) :: pieces
  | pieces => if cs.isEmpty then pieces else chars cs :: pieces

/-- Cuts a text into pieces.  Of the backslashes in front of a reference each two stand for one, and
one that is left over makes the reference plain text. -/
def split? : Nat → List Char → Option (List Piece)
  | 0, _ => none
  | _, [] => some []
  | fuel + 1, c :: rest =>
    let slashes := ((c :: rest).takeWhile (· = '\\')).length
    let after := (c :: rest).drop slashes
    if isOpen after then
      if slashes % 2 = 1 then
        (split? fuel (after.drop 2)).map
          (consChars (List.replicate (slashes / 2) '\\' ++ openMark))
      else do
        let (piece, rest) ← read? (4 * after.length + 4) (after.drop 2)
        (split? fuel rest).map fun pieces =>
          consChars (List.replicate (slashes / 2) '\\') (piece :: pieces)
    else if slashes = 0 then (split? fuel rest).map (consChars [c])
    else (split? fuel after).map (consChars (List.replicate slashes '\\'))

/-- The pieces of a text; none if it holds a reference that is not well formed. -/
def ofText? (s : String) : Option (List Piece) := split? (s.length + 1) s.toList

end Piece

end Vitae.Yaml
