import Vitae.Text.Blank

/-!
# Web addresses without their scheme

A résumé shows an address without the `http://` or `https://` in front of it.
-/

namespace Vitae.Text

/-- The text after the word, whose characters are matched by the given tests, if it begins with it.
-/
def dropWord? : List (Char → Bool) → List Char → Option (List Char)
  | [], cs => some cs
  | _ :: _, [] => none
  | test :: tests, c :: rest => if test c then dropWord? tests rest else none

/-- The test for a letter of ASCII in either case. -/
def eitherCase (letter c : Char) : Bool := c = letter || c = letter.toUpper

/-- The test for `s` in either case; the long s is an `s` too. -/
def isLetterS (c : Char) : Bool := eitherCase 's' c || c = 'ſ'

/-- The text after its scheme `http://` or `https://`, in any case, if it begins with one. -/
def dropScheme? (cs : List Char) : Option (List Char) :=
  let http := [eitherCase 'h', eitherCase 't', eitherCase 't', eitherCase 'p']
  let mark : List (Char → Bool) := [(· = ':'), (· = '/'), (· = '/')]
  (dropWord? (http ++ isLetterS :: mark) cs).or (dropWord? (http ++ mark) cs)

/-- An address without outer blanks and without its scheme. -/
def stripSchemeChars (cs : List Char) : List Char :=
  (dropScheme? (trimChars cs)).getD (trimChars cs)

/-- An address without outer blanks and without its scheme; empty when there is none. -/
def stripScheme? : Option String → String
  | none => ""
  | some s => String.ofList (stripSchemeChars s.toList)

example : stripScheme? (some " HTTPS://a.b ") = "a.b" := by decide +kernel

end Vitae.Text
