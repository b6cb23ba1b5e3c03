import Vitae.Text.Case.Tables

/-!
# Lower and upper case

The full case mappings of Unicode: a character may become several, and a capital sigma at the end of
a word becomes the final sigma.
-/

namespace Vitae.Text

/-- Whether a character has case. -/
def isCased (c : Char) : Bool := inRanges casedRanges c.toNat

/-- Whether a character is passed over when the place of a sigma is judged. -/
def isCaseIgnorable (c : Char) : Bool := inRanges caseIgnorableRanges c.toNat

/-- Whether the first character that is not passed over has case. -/
def startsCased : List Char → Bool
  | [] => false
  | c :: rest => if isCaseIgnorable c then startsCased rest else isCased c

/-- The lower case of a character that stands alone. -/
def lowerChar (c : Char) : List Char :=
  if c.toNat < 0x80 then [c.toLower]
  else if c = 'İ' then ['i', '\u0307']
  else [(lowerRuns.findSome? (·.image? c.toNat)).elim c Char.ofNat]

/-- The upper case of a character. -/
def upperChar (c : Char) : List Char :=
  if c.toNat < 0x80 then [c.toUpper]
  else match upperExpansions.lookup c.toNat with
    | some codes => codes.map Char.ofNat
    | none => [(upperRuns.findSome? (·.image? c.toNat)).elim c Char.ofNat]

/-- The lower case of the rest of a text; `afterCased` tells whether the last character that is not
passed over had case. -/
def lowerFrom (afterCased : Bool) : List Char → List Char
  | [] => []
  | c :: rest =>
    (if c = 'Σ' then [if afterCased && !startsCased rest then 'ς' else 'σ'] else lowerChar c) ++
      lowerFrom (if isCaseIgnorable c then afterCased else isCased c) rest

/-- The lower case of a text. -/
def lowerChars (cs : List Char) : List Char := lowerFrom false cs

/-- The text with its first character in upper case. -/
def capitalizeChars : List Char → List Char
  | [] => []
  | c :: rest => upperChar c ++ rest

/-- The lower case of a text. -/
def lower (s : String) : String := String.ofList (lowerChars s.toList)

/-- The text with its first character in upper case. -/
def capitalize (s : String) : String := String.ofList (capitalizeChars s.toList)

/-- Whether a text is of ASCII. -/
def isAscii (s : String) : Bool := s.toList.all fun c => decide (c.toNat < 0x80)

theorem isAscii_iff {s : String} : isAscii s = true ↔ ∀ c ∈ s.toList, c.toNat < 0x80 := by
  simp [isAscii]

/-- What holds of the first 128 code points holds of every character of ASCII. -/
theorem of_ascii {P : Char → Prop} (h : ∀ n < 0x80, P (Char.ofNat n)) {c : Char} (hc : c.toNat < 0x80) :
    P c := by
  have hP := h c.toNat hc
  rwa [Char.ofNat_toNat] at hP

/-- On text of ASCII the lower case works character by character. -/
theorem lowerFrom_of_ascii {cs : List Char} (h : ∀ c ∈ cs, c.toNat < 0x80) (b : Bool) :
    lowerFrom b cs = cs.map Char.toLower := by
  induction cs generalizing b with
  | nil => rfl
  | cons c rest ih =>
    have hc : c.toNat < 0x80 := h c List.mem_cons_self
    have hs : c ≠ 'Σ' := by rintro rfl; exact absurd hc (by decide)
    simp [lowerFrom, hs, lowerChar, hc, ih fun d hd => h d (List.mem_cons_of_mem c hd)]

end Vitae.Text
