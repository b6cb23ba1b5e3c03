import Vitae.Latex.Escape

/-!
# Keyed arguments

The commands of the standard templates take their arguments as `key=…` pairs in brackets, each value
in braces.  Such a command fails on a key with an empty value, so a value with nothing to show
yields no pair, and a command without pairs is not written at all.
-/

namespace Vitae.Latex

/-- A text in braces. -/
def braced (s : String) : String := "\x7b" ++ s ++ "\x7d"

/-- The written form of one argument, if its value shows something. -/
def keyed? (key : String) (value : Option String) : Option String :=
  if escape? value = "" then none else some (key ++ "=" ++ braced (escape? value))

/-- Arguments with commas between them; empty ones are left out. -/
def joinArguments (arguments : List String) : String :=
  ", ".intercalate (arguments.filter (· ≠ ""))

/-- A command with its arguments in brackets; nothing without arguments. -/
def command? (name arguments : String) : Option String :=
  if arguments = "" then none else some ("\\" ++ name ++ "[" ++ arguments ++ "]")

/-- The candidates for the arguments of a command, in the order in which they are shown. -/
abbrev Candidates := List (String × Option String)

namespace Candidates

/-- The written forms of the candidates that show something. -/
def entries (args : Candidates) : List String := args.filterMap fun p => keyed? p.1 p.2

/-- The argument list. -/
def text (args : Candidates) : String := joinArguments args.entries

/-- The command with these arguments. -/
def command? (name : String) (args : Candidates) : Option String := Latex.command? name args.text

/-- Whether some candidate shows something. -/
def isUsed (args : Candidates) : Bool := !args.entries.isEmpty

end Candidates

/-- The line that opens an environment; the title is already escaped. -/
def beginTitled (environment title : String) : String :=
  "\\begin" ++ braced environment ++ braced title

/-- The line that closes an environment. -/
def endEnvironment (environment : String) : String := "\\end" ++ braced environment

end Vitae.Latex
