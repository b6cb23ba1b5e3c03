/-!
# Blank characters

The characters that count as white space in a résumé, and what follows from them: trimming, the
words of a text, and its single-line form.

Every function comes at two levels.  The one that ends in `Chars` works on a list of characters and
is the one to reason about; the plain name is the same function on strings.
-/

namespace Vitae.Text

/-- The white space characters: the control characters from tab to carriage return and from file
separator to unit separator, the next-line control, and the separators of Unicode. -/
def isBlank (c : Char) : Bool :=
  let n := c.toNat
  (0x9 ≤ n && n ≤ 0xd) || (0x1c ≤ n && n ≤ 0x20) || n == 0x85 || n == 0xa0 || n == 0x1680 ||
    (0x2000 ≤ n && n ≤ 0x200a) || n == 0x2028 || n == 0x2029 || n == 0x202f || n == 0x205f ||
    n == 0x3000

/-- The text without its leading blanks. -/
def dropBlanks : List Char → List Char
  | [] => []
  | c :: rest => if isBlank c then dropBlanks rest else c :: rest

/-- The text without its leading and trailing blanks. -/
def trimChars (cs : List Char) : List Char :=
  (dropBlanks (dropBlanks cs).reverse).reverse

/-- Whether a text holds nothing but blanks. -/
def isBlankChars (cs : List Char) : Bool := cs.all isBlank

/-- Every run of blanks becomes one space.  `inRun` tells that the character before was a blank. -/
def collapseFrom (inRun : Bool) : List Char → List Char
  | [] => []
  | c :: rest =>
    if isBlank c then
      if inRun then collapseFrom true rest else ' ' :: collapseFrom true rest
    else c :: collapseFrom false rest

/-- One line without outer blanks, in which every inner run of blanks is one space. -/
def singleLineChars (cs : List Char) : List Char := trimChars (collapseFrom false cs)

/-- Adds a character in front of the first of the words. -/
def extendWord (c : Char) : List (List Char) → List (List Char)
  | [] => [[c]]
  | w :: ws => (c :: w) :: ws

/-- The words of a text: its maximal runs of characters that are not blank. -/
def wordsChars : List Char → List (List Char)
  | [] => []
  | [c] => if isBlank c then [] else [[c]]
  | c :: d :: rest =>
    if isBlank c then wordsChars (d :: rest)
    else if isBlank d then [c] :: wordsChars (d :: rest)
    else extendWord c (wordsChars (d :: rest))

/-! ### On strings -/

/-- The text without its leading and trailing blanks. -/
def trim (s : String) : String := String.ofList (trimChars s.toList)

/-- Whether a text holds nothing but blanks. -/
def isBlankText (s : String) : Bool := isBlankChars s.toList

/-- One line without outer blanks, in which every inner run of blanks is one space. -/
def singleLine (s : String) : String := String.ofList (singleLineChars s.toList)

/-- Whether a value is present and shows something when printed. -/
def isVisible : Option String → Bool
  | none => false
  | some s => trim s != ""

/-- The single-line form of a value; the empty text when there is none. -/
def singleLine? : Option String → String
  | none => ""
  | some s => singleLine s

/-- The values that are present, trimmed, without the empty ones, with `separator` between them. -/
def trimJoin (separator : String) (parts : List (Option String)) : String :=
  separator.intercalate ((parts.filterMap (·.map trim)).filter (· != ""))

/-! ### Laws -/

@[simp] theorem isBlank_space : isBlank ' ' = true := by decide

@[simp] theorem toList_trim (s : String) : (trim s).toList = trimChars s.toList := by simp [trim]

@[simp] theorem toList_singleLine (s : String) :
    (singleLine s).toList = singleLineChars s.toList := by simp [singleLine]

end Vitae.Text
