import Vitae.Calendar.Range
import Vitae.Decimal.Integer
import Vitae.Decimal.Shortest
import Vitae.Path
import Vitae.Text.Quoted

/-!
# Data

The values that a record file can hold, of any kind and nested at will.  A value has a plain text,
the one that is shown when it stands in a field, and a literal, the one that is shown inside a list
or a mapping.
-/

namespace Vitae

open Text Calendar Decimal

/-- A value of a record file. -/
inductive Datum where
  /-- The value of a key that has none. -/
  | null
  /-- A truth value. -/
  | bool (b : Bool)
  /-- An integer. -/
  | int (n : Int)
  /-- A floating point number. -/
  | float (x : Binary64)
  /-- A text. -/
  | text (s : String)
  /-- A string of bytes. -/
  | binary (bytes : List UInt8)
  /-- A list. -/
  | list (items : List Datum)
  /-- A list of fixed length. -/
  | tuple (items : List Datum)
  /-- A mapping, as its pairs in order; no key stands twice. -/
  | map (pairs : List (Datum × Datum))
  /-- A date. -/
  | date (d : Date)
  /-- A date with a time of day. -/
  | moment (t : Moment)
  /-- The path of a file. -/
  | path (p : Path)
  deriving Repr, Inhabited

namespace Datum

/-- The name of the kind of a value. -/
def kind : Datum → String
  | .null => "NoneType"
  | .bool _ => "bool"
  | .int _ => "int"
  | .float _ => "float"
  | .text _ => "str"
  | .binary _ => "bytes"
  | .list _ => "list"
  | .tuple _ => "tuple"
  | .map _ => "dict"
  | .date _ => "date"
  | .moment _ => "datetime"
  | .path _ => "PosixPath"

/-- The decimal text of an integer. -/
def intText (n : Int) : String :=
  if n < 0 then "-" ++ Nat.repr n.natAbs else Nat.repr n.natAbs

/-- The arguments of a literal, with commas between them. -/
def arguments (args : List String) : String := ", ".intercalate args

/-- The literal of a date. -/
def dateLiteral (d : Date) : String :=
  "datetime.date(" ++ arguments ([d.year, d.month, d.day].map Nat.repr) ++ ")"

/-- The literal of a length of time in millionths of a second, as days, seconds and millionths;
parts that are zero are left out, and only the days are negative. -/
def durationLiteral (micros : Int) : String :=
  let days := Int.fdiv micros 86400000000
  let rest := (Int.fmod micros 86400000000).toNat
  let parts : List (String × Int) :=
    [("days=", days), ("seconds=", (rest / 1000000 : Nat)),
     ("microseconds=", (rest % 1000000 : Nat))]
  let shown := (parts.filter fun p => p.2 ≠ 0).map fun p => p.1 ++ intText p.2
  "datetime.timedelta(" ++ (if shown.isEmpty then "0" else arguments shown) ++ ")"

/-- The literal of an offset from universal time. -/
def offsetLiteral (offset : Int) : String :=
  if offset = 0 then "datetime.timezone.utc"
  else "datetime.timezone(" ++ durationLiteral offset ++ ")"

/-- The literal of a moment.  Seconds and millionths that are zero are left out. -/
def momentLiteral (t : Moment) : String :=
  let fields := [t.date.year, t.date.month, t.date.day, t.hour, t.minute] ++
    (if t.micro ≠ 0 then [t.second, t.micro] else if t.second ≠ 0 then [t.second] else [])
  "datetime.datetime(" ++ arguments (fields.map Nat.repr ++
    (t.offset.map fun o => "tzinfo=" ++ offsetLiteral o).toList) ++ ")"

mutual

/-- The literal of a value. -/
def literal : Datum → String
  | .null => "None"
  | .bool b => if b then "True" else "False"
  | .int n => intText n
  | .float x => x.text
  | .text s => quoted s
  | .binary bytes => quotedBytes bytes
  | .list items => "[" ++ arguments (literals items) ++ "]"
  | .tuple [item] => "(" ++ literal item ++ ",)"
  | .tuple items => "(" ++ arguments (literals items) ++ ")"
  | .map pairs => "\x7b" ++ arguments (pairLiterals pairs) ++ "\x7d"
  | .date d => dateLiteral d
  | .moment t => momentLiteral t
  | .path p => "PosixPath(" ++ quoted p.text ++ ")"

/-- The literals of the items of a list. -/
def literals : List Datum → List String
  | [] => []
  | item :: items => literal item :: literals items

/-- The pairs of a mapping, each as key and value with a colon between them. -/
def pairLiterals : List (Datum × Datum) → List String
  | [] => []
  | (key, value) :: pairs => (literal key ++ ": " ++ literal value) :: pairLiterals pairs

end

/-- The plain text of a value.  It differs from the literal for texts, dates, moments and paths. -/
def plain : Datum → String
  | .text s => s
  | .date d => d.text
  | .moment t => t.text " "
  | .path p => p.text
  | d => d.literal

/-- The plain text of a value that is present. -/
def plain? : Datum → Option String
  | .null => none
  | d => some d.plain

/-! ### Numbers that are too long

An integer with too many digits cannot be written in decimal, so a value that holds one has no
text. -/

/-- The least integer with too many digits. -/
def tooLong : Nat := Binary64.powerOfTen digitLimit

mutual

/-- Whether a value has a text: no integer in it has too many digits. -/
def isShown : Datum → Bool
  | .int n => n.natAbs < tooLong
  | .list items => areShown items
  | .tuple items => areShown items
  | .map pairs => arePairsShown pairs
  | _ => true

/-- Whether all items of a list have a text. -/
def areShown : List Datum → Bool
  | [] => true
  | item :: items => isShown item && areShown items

/-- Whether the keys and values of all pairs have a text. -/
def arePairsShown : List (Datum × Datum) → Bool
  | [] => true
  | (key, value) :: pairs => isShown key && isShown value && arePairsShown pairs

end

/-! ### Truth and members -/

/-- Whether a value counts as true: it is not zero, not empty and not missing. -/
def isTrue : Datum → Bool
  | .null => false
  | .bool b => b
  | .int n => n != 0
  | .float x => !x.isZero
  | .text s => s != ""
  | .binary bytes => !bytes.isEmpty
  | .list items => !items.isEmpty
  | .tuple items => !items.isEmpty
  | .map pairs => !pairs.isEmpty
  | .date _ => true
  | .moment _ => true
  | .path _ => true

/-! ### Keys of mappings -/

/-- The integer that a number equals; truth values are the numbers zero and one. -/
def number? : Datum → Option Int
  | .bool b => some (if b then 1 else 0)
  | .int n => some n
  | .float x => x.integer?
  | _ => none

mutual

/-- Whether two values are one and the same key.  Numbers are compared by value, whatever their
kind; a number that is not one equals nothing.  Moments are compared by the instant. -/
def sameKey : Datum → Datum → Bool
  | .null, .null => true
  | .text s, .text t => s == t
  | .binary a, .binary b => a == b
  | .date d, .date e => d == e
  | .moment t, .moment u => t.sameInstant u
  | .path p, .path q => p == q
  | .tuple xs, .tuple ys => sameKeys xs ys
  | .float x, .float y => x != .nan && (x == y || (x.isZero && y.isZero))
  | d, e => match number? d, number? e with
    | some m, some n => m == n
    | _, _ => false

/-- Whether two lists of keys agree item by item. -/
def sameKeys : List Datum → List Datum → Bool
  | [], [] => true
  | x :: xs, y :: ys => sameKey x y && sameKeys xs ys
  | _, _ => false

end

/-- The pairs with a value put under a key: the key keeps its place if it is there. -/
def insertPair (key value : Datum) : List (Datum × Datum) → List (Datum × Datum)
  | [] => [(key, value)]
  | (k, v) :: pairs =>
    if sameKey k key then (k, value) :: pairs else (k, v) :: insertPair key value pairs

/-- The mapping made of the given pairs; of equal keys the first gives the place and the last the
value. -/
def ofPairs (pairs : List (Datum × Datum)) : Datum :=
  .map (pairs.foldl (fun acc p => insertPair p.1 p.2 acc) [])

/-! ### Fields of a record -/

/-- The field of a kind of value that is text: dates in their numeric form. -/
def toText? : Datum → Option String
  | .null => none
  | .date d => some d.text
  | .moment t => some (t.text "T")
  | d => some d.plain

/-- The value as the content of a date field. -/
def toDate? : Datum → Option DateValue
  | .null => none
  | .date d => some (.date d)
  | .moment t => some (.moment t)
  | d => some (.text d.plain)

end Datum

end Vitae
