import Vitae.Decimal.Integer

/-!
# Tags

The tag of a node says what kind of value it stands for.  A plain scalar without a tag has the one
that its text looks like.
-/

namespace Vitae.Yaml

open Text

/-- What kind of value a node stands for. -/
inductive Tag where
  /-- The missing value. -/
  | null
  /-- A truth value. -/
  | bool
  /-- An integer. -/
  | int
  /-- A floating point number. -/
  | float
  /-- A text. -/
  | text
  /-- A string of bytes. -/
  | binary
  /-- A list. -/
  | sequence
  /-- A mapping. -/
  | mapping
  /-- A list of pairs, written as a list of mappings of one pair each. -/
  | pairs
  /-- A set, written as a mapping whose keys are its members. -/
  | set
  /-- A date, with or without a time of day. -/
  | timestamp
  /-- The path of a file, written as a list of its parts. -/
  | path
  /-- As a key: the pairs of the value are merged into the mapping. -/
  | merge
  /-- As a key: the value stands for the whole mapping where a scalar is needed. -/
  | default
  /-- Any other kind. -/
  | other (name : String)
  deriving DecidableEq, Repr, Inhabited

/-- What the names of the tags of the YAML language begin with. -/
def Tag.family : String := "tag:yaml.org,2002:"

/-- The names of the tags that have a meaning here, without their common beginning. -/
def Tag.known : List (String × Tag) :=
  [("null", .null), ("bool", .bool), ("int", .int), ("float", .float), ("str", .text),
   ("binary", .binary), ("seq", .sequence), ("map", .mapping), ("omap", .pairs), ("pairs", .pairs),
   ("set", .set), ("timestamp", .timestamp), ("merge", .merge), ("value", .default)]

/-- The names of the tags for paths, without their common beginning. -/
def Tag.pathNames : List String :=
  ["Path", "PosixPath", "_local.Path", "_local.PosixPath"].map
    ("python/object/apply:pathlib." ++ ·)

/-- The tag with the given full name. -/
def Tag.ofName (name : String) : Tag :=
  let named := Tag.known ++ Tag.pathNames.map fun n => (n, .path)
  ((named.map fun p => (Tag.family ++ p.1, p.2)).lookup name).getD (.other name)

/-- The full name of a tag. -/
def Tag.name : Tag → String
  | .other name => name
  | tag => Tag.family ++ (((Tag.known.find? fun p => p.2 = tag).map Prod.fst).getD "")

/-! ### Plain scalars -/

/-- A text with a sign in front, without the sign. -/
def dropSign : List Char → List Char
  | '-' :: rest => rest
  | '+' :: rest => rest
  | cs => cs

/-- Whether a text is not empty and all of its characters pass a test. -/
def isRun (test : Char → Bool) (cs : List Char) : Bool := !cs.isEmpty && cs.all test

/-- Whether a character is a decimal digit or an underscore. -/
def isDigitOrGap (c : Char) : Bool := c.isDigit || c = '_'

/-- Whether a text begins with a digit and holds only digits and underscores. -/
def isDigitRun (cs : List Char) : Bool := (cs.headD ' ').isDigit && cs.all isDigitOrGap

/-- Whether a text is a part of a number in base sixty behind its first: one digit, or two of which
the first is at most five. -/
def isSixtieth (cs : List Char) : Bool :=
  match cs with
  | [a] => a.isDigit
  | [a, b] => a.isDigit && a ≤ '5' && b.isDigit
  | _ => false

/-- Whether a character is a hexadecimal digit or an underscore. -/
def isHexOrGap (c : Char) : Bool :=
  isDigitOrGap c || ('a' ≤ c && c ≤ 'f') || ('A' ≤ c && c ≤ 'F')

/-- Whether an unsigned text looks like an integer: binary, hexadecimal, octal, decimal, or in base
sixty with colons. -/
def looksNatural (cs : List Char) : Bool :=
  match cs with
  | '0' :: 'b' :: rest => isRun (fun c => c = '0' || c = '1' || c = '_') rest
  | '0' :: 'x' :: rest => isRun isHexOrGap rest
  | '0' :: rest => rest.all fun c => ('0' ≤ c && c ≤ '7') || c = '_'
  | _ =>
    match splitChars ':' cs with
    | whole :: parts => isDigitRun whole && parts.all isSixtieth
    | [] => false

/-- Whether a text is a power of ten behind a significand: nothing, or `e` with an integer. -/
def isPower (signNeeded : Bool) (cs : List Char) : Bool :=
  match cs with
  | [] => true
  | c :: rest =>
    (c = 'e' || c = 'E') && isRun Char.isDigit (dropSign rest) &&
      (!signNeeded || dropSign rest ≠ rest)

/-- Whether a text is made of groups of digits with single underscores between them. -/
def isGrouped (cs : List Char) : Bool := (splitChars '_' cs).all (isRun Char.isDigit)

/-- Whether an unsigned text looks like a floating point number with digits in front: with a point,
with a power of ten, or with both.  Underscores that do not stand one by one between digits are
allowed only with a point, and then a power of ten needs a sign. -/
def looksReal (cs : List Char) : Bool :=
  let grouped := isGrouped (cs.takeWhile isDigitOrGap)
  (cs.headD ' ').isDigit &&
    match cs.dropWhile isDigitOrGap with
    | '.' :: rest => isPower (!grouped) (rest.dropWhile isDigitOrGap)
    | rest => grouped && !rest.isEmpty && isPower false rest

/-- Whether an unsigned text looks like a floating point number in base sixty. -/
def looksSexagesimal (cs : List Char) : Bool :=
  match splitChars '.' cs with
  | [whole, fraction] =>
    fraction.all isDigitOrGap &&
      match splitChars ':' whole with
      | first :: parts => isDigitRun first && !parts.isEmpty && parts.all isSixtieth
      | [] => false
  | _ => false

/-- Whether a text looks like a floating point number. -/
def looksFloat (cs : List Char) : Bool :=
  let body := dropSign cs
  looksReal body || looksSexagesimal body || body ∈ [".inf", ".Inf", ".INF"].map String.toList ||
    cs ∈ [".nan", ".NaN", ".NAN"].map String.toList ||
    match cs with
    | '.' :: rest =>
      (rest.headD ' ').isDigit && isPower true (rest.dropWhile isDigitOrGap)
    | _ => false

/-- The words for the truth values. -/
def truthWords : List (String × Bool) :=
  [("yes", true), ("true", true), ("on", true), ("no", false), ("false", false), ("off", false)]

/-- A word in the three ways in which it may be written: small, with a capital, in capitals. -/
def spellings (word : String) : List String :=
  [word, word.capitalize, word.toUpper]

/-- The words for the missing value. -/
def nullWords : List String := "" :: "~" :: spellings "null"

/-- A text without the line feed at its end, if it has one and something in front of it. -/
def dropLineEnd (s : String) : String :=
  match s.toList.reverse with
  | '\n' :: c :: rest => String.ofList (c :: rest).reverse
  | _ => s

/-- The tag that a plain scalar with the given text has.  A line feed at the end does not count. -/
def Tag.ofPlain (text : String) : Tag :=
  let s := dropLineEnd text
  let cs := s.toList
  if (truthWords.flatMap fun p => spellings p.1).contains s then .bool
  else if looksNatural (dropSign cs) then .int
  else if looksFloat cs then .float
  else if s = "<<" then .merge
  else if nullWords.contains s then .null
  else if s = "=" then .default
  else .text

example : ["0b1_0", "017", "0x_f", "-9", "12:30", "1_"].map Tag.ofPlain =
    List.replicate 6 .int := by decide +kernel
example : ["1.", "1e3", "1__0.5e+3", "-1:30.5", "+.inf", ".NaN"].map Tag.ofPlain =
    List.replicate 6 .float := by decide +kernel
example : ["08", "1:60", "-.5", "0b", "yES", "12e", "1_e5", "1__0.5e3", "._5"].map Tag.ofPlain =
    List.replicate 9 .text := by decide +kernel

end Vitae.Yaml
