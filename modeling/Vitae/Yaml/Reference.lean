import Vitae.Text.Search
import Vitae.Yaml.Expression

/-!
# Well formed references

Which texts hold references that can be read.
-/

namespace Vitae.Yaml

/-- Whether a text holds what begins a reference. -/
def mayRefer (s : String) : Bool := go s.toList
where
  /-- Looks for the mark from a position on. -/
  go : List Char → Bool
    | [] => false
    | c :: rest => Piece.isOpen (c :: rest) || go rest

/-! ### The short form

References without quotes, escapes or nesting are let through without being read.  This form is
freer at its edges: the blanks in it may be line breaks, and a function with arguments may have no
name. -/

/-- Whether a character is a blank of the short form. -/
def isShortGap (c : Char) : Bool := isSpace c || (0xa ≤ c.toNat && c.toNat ≤ 0xd)

/-- The text without the blanks of the short form around it. -/
def trimShort (cs : List Char) : List Char :=
  ((cs.dropWhile isShortGap).reverse.dropWhile isShortGap).reverse

/-- Whether a character may stand in the keys of the short form, with the marks between them. -/
def isShortKeyChar (c : Char) : Bool := c.isAlphanum || "_$.[]".toList.contains c

/-- Whether a text is a reference by keys in the short form. -/
def isShortPath (cs : List Char) : Bool :=
  cs.all isShortKeyChar &&
    ((Piece.readKeys? (cs.length + 3) (cs ++ ['\x7d'])).elim false fun r => r.2.isEmpty)

/-- Whether a text is an identifier. -/
def isIdentifier (cs : List Char) : Bool := (Piece.takeName? cs).elim false fun r => r.2.isEmpty

/-- Whether a character may stand in an argument of the short form. -/
def isShortArgumentChar (c : Char) : Bool := c.isAlphanum || "_/-+.$%*@?|".toList.contains c

/-- Whether a text is an argument of the short form. -/
def isShortArgument (cs : List Char) : Bool := !cs.isEmpty && cs.all isShortArgumentChar

/-- Whether a text is a call in the short form: a name, which may be missing, a colon, and arguments
with commas between them. -/
def isShortCall (cs : List Char) : Bool :=
  match Text.breakAt? [':'] cs with
  | none => false
  | some (name, arguments) =>
    let name := trimShort name
    let arguments := trimShort arguments
    (name.isEmpty || (Text.splitChars '.' name).all isIdentifier) &&
      (Text.splitChars ',' arguments).all (isShortArgument <| trimShort ·)

/-- Whether all references of a text have the short form. -/
def isShort : Nat → List Char → Bool
  | 0, _ => false
  | _, [] => true
  | fuel + 1, c :: rest =>
    if Piece.isOpen (c :: rest) then
      let inner := rest.tail.takeWhile (· ≠ '\x7d')
      match rest.tail.dropWhile (· ≠ '\x7d') with
      | [] => false
      | _ :: after =>
        (isShortPath (trimShort inner) || isShortCall inner) && isShort fuel after
    else isShort fuel rest

/-- Whether all references of a text are well formed. -/
def isWellFormed (s : String) : Bool :=
  !mayRefer s || isShort (s.length + 1) s.toList || (Piece.ofText? s).isSome

end Vitae.Yaml
