import Vitae.Yaml.Scalar

/-!
# Tokens

A YAML text as a list of tokens.  Indentation becomes explicit: a block begins and ends with a token
of its own.  Whether a scalar is a key is known only at the colon behind it, so the token for a key
is put in front of it at that point.
-/

namespace Vitae.Yaml

/-- The tokens of a YAML text. -/
inductive Token where
  /-- The version that a document is written for. -/
  | versionDirective (major minor : Nat)
  /-- What a tag handle stands for. -/
  | tagDirective (handle meaning : String)
  /-- The marker in front of a document. -/
  | documentStart
  /-- The marker behind a document. -/
  | documentEnd
  /-- The end of the text. -/
  | streamEnd
  /-- The beginning of a list by indentation. -/
  | blockSequenceStart
  /-- The beginning of a mapping by indentation. -/
  | blockMappingStart
  /-- The end of a list or mapping by indentation. -/
  | blockEnd
  /-- An opening bracket. -/
  | flowSequenceStart
  /-- A closing bracket. -/
  | flowSequenceEnd
  /-- An opening brace. -/
  | flowMappingStart
  /-- A closing brace. -/
  | flowMappingEnd
  /-- A dash in front of an item. -/
  | blockEntry
  /-- A comma. -/
  | flowEntry
  /-- What follows is a key. -/
  | key
  /-- What follows is the value of a key. -/
  | value
  /-- A reference to an anchor. -/
  | alias (name : String)
  /-- A name for the node that follows. -/
  | anchor (name : String)
  /-- The tag of the node that follows. -/
  | tag (handle suffix : String)
  /-- A scalar. -/
  | scalar (text : String) (plain : Bool)
  deriving DecidableEq, Repr, Inhabited

/-- A place where a key may begin that needs no mark of its own. -/
structure SimpleKey where
  /-- Whether a key has to stand there. -/
  required : Bool
  /-- The number of tokens before it. -/
  number : Nat
  /-- Its position. -/
  cursor : Cursor
  deriving Repr, Inhabited

/-- The state of reading tokens. -/
structure Reader where
  /-- The position. -/
  cursor : Cursor
  /-- The tokens so far. -/
  tokens : Array Token := #[]
  /-- The column of the innermost block; `-1` outside all blocks. -/
  indent : Int := -1
  /-- The columns of the blocks around it. -/
  outer : List Int := []
  /-- Whether a key may begin at the position. -/
  keyAllowed : Bool := true
  /-- Where a key may have begun: on the level of brackets of the position, and on those around it.
  -/
  keys : List (Option SimpleKey) := [none]
  /-- Whether the end of the text has been read. -/
  done : Bool := false
  deriving Repr, Inhabited

namespace Reader

/-- Whether the position lies inside brackets. -/
def inFlow (r : Reader) : Bool := 1 < r.keys.length

/-- The fault of a token that cannot be read. -/
def fail {α : Type} (r : Reader) : Except Fault α := .error (.token r.cursor.line)

/-- The reader behind a token. -/
def push (r : Reader) (t : Token) (c : Cursor) : Reader :=
  { r with tokens := r.tokens.push t, cursor := c }

/-- Ends the blocks that begin right of a column. -/
def unroll (r : Reader) (column : Int) : Reader :=
  if r.inFlow then r else go r.outer r.indent r.tokens
where
  /-- Ends blocks from the innermost on. -/
  go : List Int → Int → Array Token → Reader
    | [], indent, tokens => { r with indent, outer := [], tokens }
    | outer :: rest, indent, tokens =>
      if column < indent then go rest outer (tokens.push .blockEnd)
      else { r with indent, outer := outer :: rest, tokens }

/-- The reader with a token after the first `number` ones. -/
def insert (r : Reader) (t : Token) (number : Nat) : Reader :=
  { r with tokens := r.tokens.insertIdxIfInBounds number t }

/-- Begins a block at a column, unless one begins there already; its token comes after the first
`number` tokens. -/
def roll (r : Reader) (column : Nat) (number : Nat) (t : Token) : Reader :=
  if r.inFlow || (column : Int) ≤ r.indent then r
  else { r.insert t number with outer := r.indent :: r.outer, indent := column }

/-- Gives up the key that may have begun on the level of the position; a required one is a fault. -/
def dropKey (r : Reader) : Except Fault Reader :=
  match r.keys with
  | some k :: rest =>
    if k.required then .error (.token k.cursor.line) else .ok { r with keys := none :: rest }
  | _ => .ok r

/-- Notes that a key may begin at the position. -/
def saveKey (r : Reader) : Except Fault Reader :=
  if r.keyAllowed then do
    let required := !r.inFlow && r.indent = (r.cursor.column : Int)
    let r ← r.dropKey
    let k : SimpleKey := ⟨required, r.tokens.size, r.cursor⟩
    return { r with keys := some k :: r.keys.tail }
  else .ok r

/-- Gives up the keys that may have begun on an earlier line or too far before the position. -/
def dropStaleKeys (r : Reader) : Except Fault Reader := do
  let keys ← r.keys.mapM fun key => match key with
    | some k =>
      if k.cursor.line < r.cursor.line || k.cursor.index + 1024 < r.cursor.index then
        if k.required then (.error (.token k.cursor.line) : Except Fault (Option SimpleKey))
        else .ok none
      else .ok (some k)
    | none => .ok none
  return { r with keys }

/-- Moves to the next token: past spaces, comments and line breaks, and past tabs where no key may
begin. -/
def toNextToken : Nat → Reader → Reader
  | 0, r => r
  | fuel + 1, r =>
    let c := r.cursor
    let c := if c.column = 0 && c.peek = '\ufeff' then c.skip else c
    let c := c.skipWhile fun ch => ch = ' ' || ((r.inFlow || !r.keyAllowed) && ch = '\t')
    let c := if c.peek = '#' then c.skipWhile (!isBreak ·) else c
    match c.takeBreak? with
    | some (_, c) =>
      toNextToken fuel { r with cursor := c, keyAllowed := r.keyAllowed || !r.inFlow }
    | none => { r with cursor := c }

/-! ### Directives -/

/-- The number that digits at a position spell; nine at most. -/
def takeVersionNumber? (c : Cursor) : Option (Nat × Cursor) :=
  let (digits, c) := c.takeWhile Char.isDigit
  if digits.isEmpty || 9 < digits.length then none
  else some (digits.foldl (fun n d => 10 * n + (d.toNat - 48)) 0, c)

/-- The handle of a tag: an exclamation mark, with a name and another mark behind it if there is
one. -/
def takeHandle (c : Cursor) : List Char × Cursor :=
  let (name, c) := c.skip.takeWhile isNameChar
  if c.peek = '!' then ('!' :: name ++ ['!'], c.skip) else ('!' :: name, c)

/-- The bytes of escape sequences `%XX` at a position. -/
def takeUriBytes : Nat → Cursor → Option (List UInt8 × Cursor)
  | 0, c => some ([], c)
  | fuel + 1, c =>
    if c.peek = '%' then do
      let high ← hexValue? (c.ahead 1)
      let low ← hexValue? (c.ahead 2)
      let (bytes, c) ← takeUriBytes fuel (c.skipMany 3)
      some (UInt8.ofNat (16 * high + low) :: bytes, c)
    else some ([], c)

/-- Whether a character may stand in a tag; some only inside angle brackets. -/
def isUriChar (bracketed : Bool) (c : Char) : Bool :=
  isNameChar c || ";/?:@&=+$.!~*'()".toList.contains c || (bracketed && ",[]".toList.contains c)

/-- The characters of a tag at a position, with its escape sequences read. -/
def takeUri? (bracketed : Bool) : Nat → Cursor → Option (List Char × Cursor)
  | 0, c => some ([], c)
  | fuel + 1, c =>
    if c.peek = '%' then do
      let (bytes, c) ← takeUriBytes c.limit c
      let text ← String.fromUTF8? ⟨bytes.toArray⟩
      let (rest, c) ← takeUri? bracketed fuel c
      some (text.toList ++ rest, c)
    else
      let (run, c) := c.takeWhile (isUriChar bracketed)
      if run.isEmpty then some ([], c)
      else (takeUri? bracketed fuel c).map fun p => (run ++ p.1, p.2)

/-- A tag that must not be empty. -/
def takeTagText? (bracketed : Bool) (c : Cursor) : Option (List Char × Cursor) :=
  (takeUri? bracketed c.limit c).filter fun p => !p.1.isEmpty

/-- The directive at a position, and the position behind its line. -/
def directive? (c : Cursor) : Option (Token × Cursor) := do
  let (name, c) := c.skip.takeWhile isNameChar
  if name.isEmpty || !isGapOrEnd c.peek then none
  else
    let c := c.skipWhile isSpace
    let (token, c) ←
      if name = "YAML".toList then do
        let (major, c) ← takeVersionNumber? c
        if c.peek ≠ '.' then none
        else
          let (minor, c) ← takeVersionNumber? c.skip
          some (Token.versionDirective major minor, c)
      else if name = "TAG".toList then do
        if c.peek ≠ '!' then none
        else
          let (handle, c) := takeHandle c
          if handle ≠ ['!'] && handle.getLast? ≠ some '!' then none
          else if !isSpace c.peek then none
          else
            let (meaning, c) ← takeTagText? true (c.skipWhile isSpace)
            if !isGapOrEnd c.peek then none
            else some (Token.tagDirective (String.ofList handle) (String.ofList meaning), c)
      else none
    let c ← c.skipLineRest?
    some (token, c.skipBreak)

/-! ### Tags and anchors -/

/-- The tag at a position, and the position behind it. -/
def tag? (inFlow : Bool) (c : Cursor) : Option (Token × Cursor) := do
  let (token, c) ←
    if c.ahead 1 = '<' then do
      let (text, c) ← takeTagText? true (c.skipMany 2)
      if c.peek ≠ '>' then none else some (Token.tag "" (String.ofList text), c.skip)
    else
      let (handle, after) := takeHandle c
      if 1 < handle.length && handle.getLast? = some '!' then do
        let (text, c) ← takeTagText? false after
        some (Token.tag (String.ofList handle) (String.ofList text), c)
      else do
        let (text, c) ← takeUri? false c.limit after
        let text := handle.tail ++ text
        if text.isEmpty then some (Token.tag "" "!", c)
        else some (Token.tag "!" (String.ofList text), c)
  if isGapOrEnd c.peek || (inFlow && c.peek = ',') then some (token, c) else none

/-- The name behind the mark of an anchor or alias, and the position behind it. -/
def anchorName? (c : Cursor) : Option (String × Cursor) :=
  let (name, c) := c.skip.takeWhile isNameChar
  if name.isEmpty then none
  else if isGapOrEnd c.peek || "?:,]\x7d%@\x60".toList.contains c.peek then
    some (String.ofList name, c)
  else none

/-! ### Reading one token -/

/-- Ends all blocks and reads the end of the text. -/
def fetchEnd (r : Reader) : Except Fault Reader := do
  let r ← (r.unroll (-1)).dropKey
  return { r with tokens := r.tokens.push .streamEnd, keyAllowed := false, done := true }

/-- Ends all blocks and reads a directive. -/
def fetchDirective (r : Reader) : Except Fault Reader := do
  let r ← (r.unroll (-1)).dropKey
  match directive? r.cursor with
  | some (t, c) => return { r.push t c with keyAllowed := false }
  | none => r.fail

/-- Ends all blocks and reads the marker of a document. -/
def fetchMarker (r : Reader) (t : Token) : Except Fault Reader := do
  let r ← (r.unroll (-1)).dropKey
  return { r.push t (r.cursor.skipMany 3) with keyAllowed := false }

/-- Reads an opening bracket. -/
def fetchOpen (r : Reader) (t : Token) : Except Fault Reader := do
  let r ← r.saveKey
  return { r.push t r.cursor.skip with keys := none :: r.keys, keyAllowed := true }

/-- Reads a closing bracket. -/
def fetchClose (r : Reader) (t : Token) : Except Fault Reader := do
  let r ← r.dropKey
  let keys := if r.inFlow then r.keys.tail else r.keys
  return { r.push t r.cursor.skip with keys, keyAllowed := false }

/-- Reads a comma. -/
def fetchComma (r : Reader) : Except Fault Reader := do
  let r ← r.dropKey
  return { r.push .flowEntry r.cursor.skip with keyAllowed := true }

/-- Reads a dash. -/
def fetchDash (r : Reader) : Except Fault Reader := do
  if !r.inFlow && !r.keyAllowed then r.fail
  else
    let r ← (r.roll r.cursor.column r.tokens.size .blockSequenceStart).dropKey
    return { r.push .blockEntry r.cursor.skip with keyAllowed := true }

/-- Reads the mark of a key. -/
def fetchKey (r : Reader) : Except Fault Reader := do
  if !r.inFlow && !r.keyAllowed then r.fail
  else
    let r ← (r.roll r.cursor.column r.tokens.size .blockMappingStart).dropKey
    return { r.push .key r.cursor.skip with keyAllowed := !r.inFlow }

/-- Reads a colon.  What may have been a key on the level of the position is one now. -/
def fetchColon (r : Reader) : Except Fault Reader :=
  match r.keys with
  | some k :: rest =>
    let r := (r.insert .key k.number).roll k.cursor.column k.number .blockMappingStart
    .ok { r.push .value r.cursor.skip with keys := none :: rest, keyAllowed := false }
  | _ =>
    if !r.inFlow && !r.keyAllowed then r.fail
    else
      let r := r.roll r.cursor.column r.tokens.size .blockMappingStart
      .ok { r.push .value r.cursor.skip with keyAllowed := !r.inFlow }

/-- Reads an anchor or alias. -/
def fetchName (r : Reader) (token : String → Token) : Except Fault Reader := do
  let r ← r.saveKey
  match anchorName? r.cursor with
  | some (name, c) => return { r.push (token name) c with keyAllowed := false }
  | none => r.fail

/-- Reads a tag. -/
def fetchTag (r : Reader) : Except Fault Reader := do
  let r ← r.saveKey
  match tag? r.inFlow r.cursor with
  | some (t, c) => return { r.push t c with keyAllowed := false }
  | none => r.fail

/-- Reads a block scalar. -/
def fetchBlockScalar (r : Reader) (folded : Bool) : Except Fault Reader := do
  let r ← r.dropKey
  let (text, c) ← blockScalar folded r.indent r.cursor
  return { r.push (.scalar (String.ofList text) false) c with keyAllowed := true }

/-- Reads a quoted scalar. -/
def fetchQuoted (r : Reader) (quote : Char) : Except Fault Reader := do
  let r ← r.saveKey
  let (text, c) ← quotedScalar quote r.cursor
  return { r.push (.scalar (String.ofList text) false) c with keyAllowed := false }

/-- Reads a plain scalar.  A key may begin behind it if it ends with its line. -/
def fetchPlain (r : Reader) : Except Fault Reader := do
  let r ← r.saveKey
  let stop ← plainScalar r.inFlow (r.indent + 1) r.cursor
  let t : Token := .scalar (String.ofList stop.text) true
  return { r.push t stop.cursor with keyAllowed := stop.broken }

/-- Whether a plain scalar may begin at a position. -/
def startsPlain (inFlow : Bool) (c : Cursor) : Bool :=
  (!isGapOrEnd c.peek && !("-?:,[]\x7b\x7d#&*!|>'\"%@\x60".toList.contains c.peek)) ||
    (c.peek = '-' && !isSpace (c.ahead 1)) ||
    (!inFlow && (c.peek = '?' || c.peek = ':') && !isGapOrEnd (c.ahead 1))

/-- Reads the token at the position. -/
def fetchHere (r : Reader) : Except Fault Reader :=
  let c := r.cursor
  let ch := c.peek
  if ch = endMark then r.fetchEnd
  else if c.column = 0 && ch = '%' then r.fetchDirective
  else if c.isMarker '-' then r.fetchMarker .documentStart
  else if c.isMarker '.' then r.fetchMarker .documentEnd
  else if ch = '[' then r.fetchOpen .flowSequenceStart
  else if ch = '\x7b' then r.fetchOpen .flowMappingStart
  else if ch = ']' then r.fetchClose .flowSequenceEnd
  else if ch = '\x7d' then r.fetchClose .flowMappingEnd
  else if ch = ',' then r.fetchComma
  else if ch = '-' && isGapOrEnd (c.ahead 1) then r.fetchDash
  else if ch = '?' && (r.inFlow || isGapOrEnd (c.ahead 1)) then r.fetchKey
  else if ch = ':' && (r.inFlow || isGapOrEnd (c.ahead 1)) then r.fetchColon
  else if ch = '*' then r.fetchName .alias
  else if ch = '&' then r.fetchName .anchor
  else if ch = '!' then r.fetchTag
  else if ch = '|' && !r.inFlow then r.fetchBlockScalar false
  else if ch = '>' && !r.inFlow then r.fetchBlockScalar true
  else if ch = '\'' || ch = '"' then r.fetchQuoted ch
  else if startsPlain r.inFlow c then r.fetchPlain
  else r.fail

/-- Moves to the next token and reads it. -/
def fetch (r : Reader) : Except Fault Reader := do
  let r ← (toNextToken r.cursor.limit r).dropStaleKeys
  (r.unroll r.cursor.column).fetchHere

/-- Reads tokens up to the end of the text; each but the last takes a character at least. -/
def fetchAll : Nat → Reader → Except Fault (List Token)
  | 0, r => r.fail
  | fuel + 1, r => do
    let r ← r.fetch
    if r.done then return r.tokens.toList else fetchAll fuel r

end Reader

/-- The tokens of a YAML text.  A byte order mark in front of it is passed over. -/
def Token.ofText? (s : String) : Except Fault (List Token) :=
  let cs := s.toList
  if !cs.all isAllowed then .error .character
  else
    let cs := if cs.head? = some '\ufeff' then cs.tail else cs
    Reader.fetchAll (cs.length + 1) { cursor := .ofText cs }

end Vitae.Yaml
