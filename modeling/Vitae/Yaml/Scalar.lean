import Vitae.Yaml.Cursor

/-!
# Scalars

The text of a scalar in each of its three forms.  A plain scalar and a quoted one may run over
several lines, which are folded: one line break becomes a space, and of several the first is
dropped.  A block scalar keeps its lines, or folds them by a rule of its own.
-/

namespace Vitae.Yaml

/-! ### Gaps between words -/

/-- What stands between two words of a scalar. -/
structure Gap where
  /-- The blanks before the first line break. -/
  blanks : List Char := []
  /-- Whether there is a line break. -/
  broken : Bool := false
  /-- The first line break; none when it is escaped. -/
  first : Option Char := none
  /-- The further line breaks. -/
  more : List Char := []
  deriving Repr, Inhabited

/-- What a gap is read as. -/
def Gap.text (g : Gap) : List Char :=
  if g.broken then
    match g.first with
    | some '\n' => if g.more = [] then [' '] else g.more
    | some b => b :: g.more
    | none => g.more
  else g.blanks

/-- Reads on through blanks and line breaks.  After a line break, a tab left of `indent` is a fault
where `strict` says so. -/
def takeGap (strict : Bool) (indent : Int) : Nat → Gap → Cursor → Except Fault (Gap × Cursor)
  | 0, g, c => .ok (g, c)
  | fuel + 1, g, c =>
    if isSpace c.peek then
      if strict && g.broken && (c.column : Int) < indent && c.peek = '\t' then
        .error (.token c.line)
      else if g.broken then takeGap strict indent fuel g c.skip
      else takeGap strict indent fuel { g with blanks := g.blanks ++ [c.peek] } c.skip
    else
      match c.takeBreak? with
      | none => .ok (g, c)
      | some (b, c) =>
        if g.broken then takeGap strict indent fuel { g with more := g.more ++ [b] } c
        else takeGap strict indent fuel { broken := true, first := some b } c

/-! ### Plain scalars -/

/-- The characters that have a meaning of their own inside brackets. -/
def isFlowMark (c : Char) : Bool := c = ',' || c = '[' || c = ']' || c = '\x7b' || c = '\x7d'

/-- The word of a plain scalar at a position.  A colon before a gap ends it, and inside brackets a
mark; there a colon before a mark is a fault. -/
def plainWord (inFlow : Bool) : List Char → Except Unit (List Char)
  | [] => .ok []
  | c :: rest =>
    let next := rest.headD endMark
    if isGapOrEnd c then .ok []
    else if inFlow && c = ':' && (isFlowMark next || next = '?') then .error ()
    else if (c = ':' && isGapOrEnd next) || (inFlow && isFlowMark c) then .ok []
    else (plainWord inFlow rest).map (c :: ·)

/-- What reading a plain scalar gives. -/
structure PlainEnd where
  /-- The text. -/
  text : List Char
  /-- Whether a line break stands between the text and the position. -/
  broken : Bool
  /-- The position behind the scalar. -/
  cursor : Cursor

/-- Reads the words of a plain scalar from a position on; `g` is the gap before it, which counts only
if a word follows. -/
def plainFrom (inFlow : Bool) (indent : Int) : Nat → Gap → Cursor → Except Fault PlainEnd
  | 0, g, c => .ok ⟨[], g.broken, c⟩
  | fuel + 1, g, c =>
    if c.isDocumentMarker || c.peek = '#' then .ok ⟨[], g.broken, c⟩
    else
      match plainWord inFlow c.rest with
      | .error _ => .error (.token c.line)
      | .ok [] => .ok ⟨[], g.broken, c⟩
      | .ok word =>
        let c := c.skipMany word.length
        if isSpace c.peek || isBreak c.peek then do
          let (next, c) ← takeGap true indent c.limit {} c
          let stop ←
            if !inFlow && (c.column : Int) < indent then pure ⟨[], next.broken, c⟩
            else plainFrom inFlow indent fuel next c
          return { stop with text := g.text ++ word ++ stop.text }
        else .ok ⟨g.text ++ word, false, c⟩

/-- The plain scalar at a position; continuation lines have to be indented by `indent`. -/
def plainScalar (inFlow : Bool) (indent : Int) (c : Cursor) : Except Fault PlainEnd :=
  plainFrom inFlow indent c.limit {} c

/-! ### Quoted scalars -/

/-- The character that an escape sequence of one letter stands for. -/
def escaped? (c : Char) : Option Char :=
  match c with
  | '0' => some '\x00' | 'a' => some '\x07' | 'b' => some '\x08' | 't' | '\t' => some '\t'
  | 'n' => some '\n' | 'v' => some '\x0b' | 'f' => some '\x0c' | 'r' => some '\r'
  | 'e' => some '\x1b' | ' ' => some ' ' | '"' => some '"' | '/' => some '/' | '\\' => some '\\'
  | 'N' => some '\u0085' | '_' => some '\u00a0' | 'L' => some '\u2028' | 'P' => some '\u2029'
  | _ => none

/-- How many hexadecimal digits follow the letter of an escape sequence. -/
def escapeWidth? (c : Char) : Option Nat :=
  match c with
  | 'x' => some 2 | 'u' => some 4 | 'U' => some 8 | _ => none

/-- The value of a hexadecimal digit. -/
def hexValue? (c : Char) : Option Nat :=
  if c.isDigit then some (c.toNat - 48)
  else if 'a' ≤ c ∧ c ≤ 'f' then some (c.toNat - 87)
  else if 'A' ≤ c ∧ c ≤ 'F' then some (c.toNat - 55)
  else none

/-- The character with the number that the given hexadecimal digits spell. -/
def hexChar? (digits : List Char) : Option Char := do
  let values ← digits.mapM hexValue?
  let n := values.foldl (fun n d => 16 * n + d) 0
  if n.isValidChar then some (Char.ofNat n) else none

/-- The escape sequence behind a backslash: its character, and the position behind it. -/
def takeEscape? (c : Cursor) : Option (Char × Cursor) :=
  match escaped? c.peek, escapeWidth? c.peek with
  | some r, _ => some (r, c.skip)
  | none, some width =>
    let digits := (c.rest.drop 1).take width
    if digits.length = width then (hexChar? digits).map fun r => (r, c.skipMany (width + 1))
    else none
  | none, none => none

/-- How the word of a quoted scalar ends. -/
inductive WordEnd where
  /-- At the closing quote. -/
  | quote
  /-- At a gap. -/
  | gap
  /-- At an escaped line break. -/
  | escapedBreak
  deriving DecidableEq, Repr

/-- Reads a word of a quoted scalar: its characters, how it ends, and the position there. -/
def quotedWord (quote : Char) : Nat → Cursor → Except Fault (List Char × WordEnd × Cursor)
  | 0, c => .error (.token c.line)
  | fuel + 1, c =>
    let single := quote = '\''
    let go (r : Char) (c : Cursor) : Except Fault (List Char × WordEnd × Cursor) :=
      (quotedWord quote fuel c).map fun p => (r :: p.1, p.2)
    if isGapOrEnd c.peek then .ok ([], .gap, c)
    else if single && c.peek = '\'' && c.ahead 1 = '\'' then go '\'' (c.skipMany 2)
    else if c.peek = quote then .ok ([], .quote, c)
    else if !single && c.peek = '\\' then
      if isBreak (c.ahead 1) then .ok ([], .escapedBreak, c.skip.skipBreak)
      else match takeEscape? c.skip with
        | some (r, c) => go r c
        | none => .error (.token c.line)
    else go c.peek c.skip

/-- Reads the words of a quoted scalar up to its closing quote. -/
def quotedFrom (quote : Char) : Nat → Cursor → Except Fault (List Char × Cursor)
  | 0, c => .error (.token c.line)
  | fuel + 1, c => do
    if c.isDocumentMarker || c.peek = endMark then .error (.token c.line)
    else
      let (word, stop, c) ← quotedWord quote c.limit c
      if stop = .quote then .ok (word, c.skip)
      else
        let (g, c) ← takeGap false 0 c.limit { broken := stop = .escapedBreak } c
        let (text, c) ← quotedFrom quote fuel c
        return (word ++ g.text ++ text, c)

/-- The quoted scalar at a position: its text, and the position behind it. -/
def quotedScalar (quote : Char) (c : Cursor) : Except Fault (List Char × Cursor) :=
  quotedFrom quote c.limit c.skip

/-! ### Block scalars -/

/-- What becomes of the line breaks at the end of a block scalar. -/
inductive Chomping where
  /-- None is kept. -/
  | strip
  /-- One is kept. -/
  | clip
  /-- All are kept. -/
  | keep
  deriving DecidableEq, Repr

/-- The chomping that a character stands for. -/
def chomping? (c : Char) : Option Chomping :=
  if c = '+' then some .keep else if c = '-' then some .strip else none

/-- The indentation that a digit stands for. -/
def indentation? (c : Char) : Option Nat := if c.isDigit then some (c.toNat - 48) else none

/-- The indicators behind the mark of a block scalar, in either order: its chomping and its
indentation, if that is given. -/
def takeIndicators (c : Cursor) : (Chomping × Option Nat) × Cursor :=
  match chomping? c.peek, indentation? c.peek with
  | some chomping, _ =>
    match indentation? (c.ahead 1) with
    | some n => ((chomping, some n), c.skipMany 2)
    | none => ((chomping, none), c.skip)
  | none, some n =>
    match chomping? (c.ahead 1) with
    | some chomping => ((chomping, some n), c.skipMany 2)
    | none => ((.clip, some n), c.skip)
  | none, none => ((.clip, none), c)

/-- Reads on through indentation and line breaks.  While the indentation is not known, all spaces
belong to it, and the greatest column is kept. -/
def takeBreaks (indent : Option Nat) : Nat → List Char → Nat → Cursor →
    Except Fault (List Char × Nat × Cursor)
  | 0, breaks, most, c => .ok (breaks, most, c)
  | fuel + 1, breaks, most, c =>
    let within := match indent with
      | none => true
      | some n => decide (c.column < n)
    if within && c.peek = ' ' then takeBreaks indent fuel breaks most c.skip
    else
      let most := max most c.column
      if within && c.peek = '\t' then .error (.token c.line)
      else
        match c.takeBreak? with
        | none => .ok (breaks, most, c)
        | some (b, c) => takeBreaks indent fuel (breaks ++ [b]) most c

/-- The state of reading a block scalar. -/
structure BlockState where
  /-- The text of the lines read. -/
  text : List Char := []
  /-- The line break at the end of the last line. -/
  lineBreak : List Char := []
  /-- The line breaks of the empty lines behind it. -/
  breaks : List Char
  /-- Whether the last line began with a blank. -/
  leadingBlank : Bool := false
  /-- The position. -/
  cursor : Cursor

/-- Reads the lines of a block scalar from a position on. -/
def blockLines (folded : Bool) (indent : Nat) : Nat → BlockState → Except Fault BlockState
  | 0, s => .ok s
  | fuel + 1, s =>
    let c := s.cursor
    if c.column = indent && c.peek ≠ endMark then do
      let blank := isSpace c.peek
      let joint :=
        if folded && s.lineBreak = ['\n'] && !s.leadingBlank && !blank then
          if s.breaks = [] then [' '] else []
        else s.lineBreak
      let (line, c) := c.takeWhile (!isBreak ·)
      let (lineBreak, c) := match c.takeBreak? with
        | some (b, c) => ([b], c)
        | none => ([], c)
      let (breaks, _, c) ← takeBreaks (some indent) c.limit [] 0 c
      let stop ← blockLines folded indent fuel
        { lineBreak, breaks, leadingBlank := blank, cursor := c }
      return { stop with text := joint ++ s.breaks ++ line ++ stop.text }
    else .ok s

/-- The block scalar at a position: its text, and the position behind it.  `parent` is the
indentation of the node that it belongs to. -/
def blockScalar (folded : Bool) (parent : Int) (c : Cursor) :
    Except Fault (List Char × Cursor) := do
  let ((chomping, increment), c) := takeIndicators c.skip
  if increment = some 0 then .error (.token c.line)
  else
    match c.skipLineRest? with
    | none => .error (.token c.line)
    | some c =>
      let c := c.skipBreak
      let known := increment.map fun n => if 0 ≤ parent then parent.toNat + n else n
      let (breaks, most, c) ← takeBreaks known c.limit [] 0 c
      let indent := known.getD (max most (max (parent + 1).toNat 1))
      let s ← blockLines folded indent c.limit { breaks, cursor := c }
      let tail := match chomping with
        | .strip => []
        | .clip => s.lineBreak
        | .keep => s.lineBreak ++ s.breaks
      .ok (s.text ++ tail, s.cursor)

end Vitae.Yaml
