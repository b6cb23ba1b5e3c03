import Vitae.Text.Blank

/-!
# Limiting blank lines

A stretch of blanks that begins with a line feed separates two lines of a text.  With more than two
line feeds in it there are blank lines between the two, and the stretch up to its last line feed is
replaced by a fixed number of line feeds; the indentation of the line that follows stays.
-/

namespace Vitae.Text

/-- What stands after the last line feed; the whole text when there is none. -/
def afterLastFeed : List Char → List Char
  | [] => []
  | c :: rest =>
    if rest.contains '\n' then afterLastFeed rest else if c = '\n' then rest else c :: rest

/-- How many line feeds a stretch needs before it is replaced: a single blank line already counts as
too many when none is allowed. -/
def gapThreshold (most : Int) : Nat := if most = 0 then 2 else 3

/-- A stretch of blanks that begins with a line feed, replaced if it holds enough line feeds. -/
def limitGap (most : Int) (gap : List Char) : List Char :=
  if gap.count '\n' < gapThreshold most then gap
  else List.replicate (most + 1).toNat '\n' ++ afterLastFeed gap

/-- Limits the stretches of a text.  `gap` is the stretch that is being read, last character first;
it is empty outside a stretch. -/
def limitFrom (most : Int) (gap : List Char) : List Char → List Char
  | [] => limitGap most gap.reverse
  | c :: rest =>
    if c = '\n' || (isBlank c && !gap.isEmpty) then limitFrom most (c :: gap) rest
    else limitGap most gap.reverse ++ c :: limitFrom most [] rest

/-- The text with its blank lines limited. -/
def limitBlankLinesChars (most : Int) (cs : List Char) : List Char := limitFrom most [] cs

/-- The text with at most `most` blank lines, for `most` 0 or 1, between two lines that are not
blank. -/
def limitBlankLines (most : Int) (s : String) : String :=
  String.ofList (limitBlankLinesChars most s.toList)

end Vitae.Text
