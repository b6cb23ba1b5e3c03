import Vitae.Calendar.Iso
import Vitae.Datum
import Vitae.Text.Case
import Vitae.Yaml.Base64
import Vitae.Yaml.Graph
import Vitae.Yaml.Number

/-!
# Values of nodes

The value that a node of a document stands for.  Of the keys of a mapping that are the same, the
first gives the place and the last the value; the values of the others are not looked at.
-/

namespace Vitae.Yaml

open Text Calendar

/-! ### Scalars -/

/-- The rest of a text behind a number of one or two digits, and the number. -/
def takeShortNumber? (cs : List Char) : Option (Nat × List Char) :=
  (takeNumber? 2 cs).or (takeNumber? 1 cs)

/-- The offset of a moment in hours and minutes; it has to be less than a day. -/
def isZone (cs : List Char) : Bool :=
  match cs.dropWhile isSpace with
  | [] => cs.isEmpty
  | ['Z'] => true
  | sign :: rest => (sign = '+' || sign = '-') &&
    match takeShortNumber? rest with
    | some (hour, []) => hour < 24
    | some (hour, ':' :: rest) =>
      (takeNumber? 2 rest).any fun p => p.2.isEmpty && 60 * hour + p.1 < 1440
    | _ => false

/-- Whether a text is a time of day with seconds, which may have a fraction and an offset. -/
def isClock (cs : List Char) : Bool :=
  (do
    let (hour, rest) ← takeShortNumber? cs
    let (minute, rest) ← takeNumber? 2 (← skip? ':' rest)
    let (second, rest) ← takeNumber? 2 (← skip? ':' rest)
    let zone := match rest with
      | '.' :: rest => rest.dropWhile Char.isDigit
      | rest => rest
    return hour < 24 && minute < 60 && second < 60 && isZone zone).getD false

/-- Whether a text is a date with the year, the month and the day, with or without a time of day. -/
def isTimestamp (s : String) : Bool :=
  (do
    let (year, rest) ← takeNumber? 4 (dropLineEnd s).toList
    let (month, rest) ← takeShortNumber? (← skip? '-' rest)
    let (day, rest) ← takeShortNumber? (← skip? '-' rest)
    let _ ← Date.mk? year month day
    match rest with
    | [] => return true
    | c :: rest =>
      if c = 'T' || c = 't' then return isClock rest
      else return isSpace c && isClock (rest.dropWhile isSpace)).getD false

/-- The value of a scalar with a tag; `none` when its text does not fit. -/
def scalarValue? (tag : Tag) (s : String) : Option Datum :=
  match tag with
  | .null => some .null
  | .bool => (truthWords.lookup (lower s)).map .bool
  | .int => (scalarInteger? s.toList).map .int
  | .float => (scalarReal? s.toList).map .float
  | .text => some (.text s)
  | .binary => (base64? s.toList).map .binary
  | _ => none

/-- The value of a node with the given tag and text. -/
def valueOf (tag : Tag) (s : Option String) : Except Fault Datum :=
  match s.bind (scalarValue? tag) with
  | some d => .ok d
  | none => .error (.value tag.name)

/-- The path that is made of the given parts, each of them a text or a path. -/
def pathOf (parts : List Datum) : Except Fault Path :=
  parts.foldlM (fun p part =>
    match part with
    | .text s => .ok (p.child s)
    | .path q => .ok (p.join q)
    | _ => .error (.value "path")) (Path.ofText "")

namespace Graph

/-! ### Parts of nodes -/

/-- The node with a number. -/
def node (g : Graph) (id : Nat) : Node := g.nodes.getD id default

/-- The tag of a node. -/
def tag (g : Graph) (id : Nat) : Tag := (g.node id).tag

/-- The pairs of a mapping; any other node has none. -/
def pairs (g : Graph) (id : Nat) : List (Nat × Nat) :=
  match (g.node id).content with
  | .mapping pairs => pairs
  | _ => []

/-- How deep nodes can be nested unless a node is below itself. -/
def depth (g : Graph) : Nat := g.nodes.size + 1

/-- The text of a node that has to be a scalar, looked for down to a depth; for a mapping it is that
of its default value. -/
def textWithin (g : Graph) : Nat → Nat → Option String
  | 0, _ => none
  | fuel + 1, id =>
    match (g.node id).content with
    | .scalar s => some s
    | .sequence _ => none
    | .mapping pairs =>
      (pairs.find? fun p => g.tag p.1 = .default).bind fun p => g.textWithin fuel p.2

/-- The text of a node that has to be a scalar. -/
def text? (g : Graph) (id : Nat) : Option String := g.textWithin g.depth id

/-! ### Keys -/

/-- Which of the values that are not numbers a node stands for: one and the same where it is named,
and one of its own anywhere else. -/
def nanIdentity (g : Graph) (id : Nat) : Option Nat :=
  if (g.text? id).any fun s => namesNan s.toList then none else some id

/-- Whether two keys, each with its node, are one and the same. -/
def isSameKey (g : Graph) (a b : Datum × Nat) : Bool :=
  match a.1, b.1 with
  | .float .nan, .float .nan => g.nanIdentity a.2 = g.nanIdentity b.2
  | d, e => d.sameKey e

/-- The pairs with a node put under a key: the key keeps its place if it is there. -/
def putUnder (g : Graph) (key : Datum × Nat) (value : Nat) :
    List ((Datum × Nat) × Nat) → List ((Datum × Nat) × Nat)
  | [] => [(key, value)]
  | (k, v) :: pairs =>
    if g.isSameKey k key then (k, value) :: pairs else (k, v) :: g.putUnder key value pairs

/-! ### Values -/

/-- The value of a node, down to a depth. -/
def valueWithin (g : Graph) : Nat → Nat → Except Fault Datum
  | 0, _ => .error .depth
  | fuel + 1, id =>
    match (g.node id).tag, (g.node id).content with
    | .sequence, .sequence items => do return .list (← items.mapM (g.valueWithin fuel))
    | .path, .sequence items => do return .path (← pathOf (← items.mapM (g.valueWithin fuel)))
    | .pairs, .sequence items => do
      return .list (← items.mapM fun item => do
        match g.pairs item with
        | [(key, value)] =>
          return .tuple [← g.valueWithin fuel key, ← g.valueWithin fuel value]
        | _ => throw (.value Tag.pairs.name))
    | .mapping, .mapping pairs => do
      let keyed ← pairs.mapM fun p => do return ((← g.valueWithin fuel p.1, p.1), p.2)
      let kept := keyed.foldl (fun acc p => g.putUnder p.1 p.2 acc) []
      return .map (← kept.mapM fun p => do return (p.1.1, ← g.valueWithin fuel p.2))
    | tag, _ => valueOf tag (g.text? id)

/-- The value of a document. -/
def value (g : Graph) : Except Fault Datum := g.valueWithin g.depth g.root

end Graph

end Vitae.Yaml
