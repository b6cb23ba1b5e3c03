import Vitae.Text.Blank

/-!
# Escaping for LaTeX

Text of a résumé enters a document as one line in which every character that LaTeX treats specially
is written so that it is printed as itself.  Long dashes become two hyphens, and the ellipsis its
command.
-/

namespace Vitae.Latex

open Text

/-- How a character is written. -/
def escapeChar (c : Char) : List Char :=
  match c with
  | '–' | '—' => "--".toList
  | '…' => "\\ldots\x7b\x7d".toList
  | '\\' => "\\textbackslash\x7b\x7d".toList
  | '\x7b' => "\\\x7b".toList
  | '\x7d' => "\\\x7d".toList
  | '$' => "\\$".toList
  | '&' => "\\&".toList
  | '%' => "\\%".toList
  | '#' => "\\#".toList
  | '_' => "\\_".toList
  | '^' => "\\textasciicircum\x7b\x7d".toList
  | '~' => "\\textasciitilde\x7b\x7d".toList
  | c => [c]

/-- How a text without line breaks is written. -/
def escapeChars (cs : List Char) : List Char := cs.flatMap escapeChar

/-- A text as one line that LaTeX prints as it stands. -/
def escape (s : String) : String := String.ofList (escapeChars (singleLineChars s.toList))

/-- A value as one line that LaTeX prints as it stands; empty when there is none. -/
def escape? : Option String → String
  | none => ""
  | some s => escape s

@[simp] theorem toList_escape (s : String) :
    (escape s).toList = escapeChars (singleLineChars s.toList) := by simp [escape]

@[simp] theorem escapeChars_append (a b : List Char) :
    escapeChars (a ++ b) = escapeChars a ++ escapeChars b := by simp [escapeChars]

end Vitae.Latex
