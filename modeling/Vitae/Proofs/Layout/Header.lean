import Vitae.Proofs.Latex.Joined
import Vitae.Proofs.Layout.Table
import Vitae.Proofs.Section.Trimmed

/-!
# The table at the head

The regional layout begins with a table of three rows with two cells. No text in it can end
a cell or a row: escaped text is inert (`inert_escape`), and no blanks stand around it
(`solid_escape`), so a cell shows the text that stands in it (`Cell`).

The lines of the address stand at the beginnings of two rows, right behind the ends of the
rows in front. So the table is read as it is given exactly when neither of the first two
lines of the address begins with a star or a bracket (`readTable_header_iff`).
-/

namespace Vitae.Regional

open Text Latex Section

/-! ### Texts in cells -/

/-- A text with all its groups closed, and without ends of rows and separators of columns. -/
structure Inert (cs : List Char) : Prop where
  /-- All groups are closed. -/
  closed : depth false cs = 0
  /-- The backslashes at its end are even in number. -/
  even : endsOdd false cs = false
  /-- No mark of a table stands in it. -/
  plain : ∀ mark ∈ [rowEnd, columnMark], mark ∉ signs cs

/-- A text that is shown in a cell as it is. -/
structure Cell (s : String) : Prop where
  /-- It does not end its cell. -/
  inert : Inert s.toList
  /-- No blanks stand around it. -/
  neat : s = "" ∨ Solid s.toList

section

variable {a b : List Char}

theorem Inert.append (ha : Inert a) (hb : Inert b) : Inert (a ++ b) where
  closed := by rw [depth_append, ha.closed, ha.even, hb.closed, Int.zero_add]
  even := by rw [endsOdd_append, ha.even, hb.even]
  plain := by
    intro mark hmark
    rw [signs_append ha.even, List.mem_append, not_or]
    exact ⟨ha.plain mark hmark, hb.plain mark hmark⟩

theorem inert_escape (s : String) : Inert (escape s).toList where
  closed := (clean_escape (W := fullWatch) s).balanced.closed
  even := (clean_escape (W := fullWatch) s).even
  plain := fun _ hmark => not_mem_signs_escape hmark s

/-- What stands around cells, and in front of them. -/
def pads : List String := ["", " ", "  ", "\n  ", "Email: ", "Mobile: ", "ID: "]

theorem inert_pad {pad : String} (h : pad ∈ pads) : Inert pad.toList := by
  have hpads : ∀ pad ∈ pads, depth false pad.toList = 0 ∧ endsOdd false pad.toList = false ∧
      ∀ mark ∈ [rowEnd, columnMark], mark ∉ signs pad.toList := by
    decide
  obtain ⟨hclosed, heven, hplain⟩ := hpads pad h
  exact ⟨hclosed, heven, hplain⟩

theorem signs_row (ha : Inert a) (b : List Char) : signs (a ++ '&' :: b) = signs a ++ columnMark :: signs b := by
  rw [signs_append ha.even, signs_cons (by decide)]
  rfl

/-- A row is cut into its cells. -/
theorem cutOutside_row (ha : Inert a) (hb : Inert b) :
    cutOutside columnMark 0 (signs (a ++ '&' :: b)) = [signs a, signs b] := by
  have hclosed : nesting (signs a) = 0 := by rw [nesting_signs, ha.closed]
  rw [signs_row ha, cutOutside_append_mark (ha.plain _ (by simp)) hclosed, cutOutside_of_not_mem (hb.plain _ (by simp))]

/-- A table is cut behind a row. -/
theorem cutOutside_rows (ha : Inert a) (hb : Inert b) (rest : List Char) :
    cutOutside rowEnd 0 (signs (a ++ '&' :: b ++ '\\' :: '\\' :: rest)) =
      signs (a ++ '&' :: b) :: cutOutside rowEnd 0 (signs rest) := by
  have heven : endsOdd false (a ++ '&' :: b) = false := by
    rw [endsOdd_append, ha.even]
    exact hb.even
  have hend : signs ('\\' :: '\\' :: rest) = rowEnd :: signs rest := by
    rw [signs, if_pos rfl]
    rfl
  have hplain : rowEnd ∉ signs (a ++ '&' :: b) := by
    rw [signs_row ha, List.mem_append, List.mem_cons, not_or, not_or]
    exact ⟨ha.plain _ (by simp), by decide, hb.plain _ (by simp)⟩
  have hclosed : nesting (signs (a ++ '&' :: b)) = 0 := by
    rw [nesting_signs, depth_append, ha.closed, ha.even]
    have hamp : weight false '&' = 0 := rfl
    simp [depth, hamp, hb.closed]
  rw [signs_append heven, hend, cutOutside_append_mark hplain hclosed]

end

/-- What is shown of a cell with blanks around it. -/
theorem Cell.shownIn_eq {s : String} (h : Cell s) {pad pad' : List Char} (hpad : ∀ c ∈ pad, isBlank c)
    (hpad' : ∀ c ∈ pad', isBlank c) : shownIn (signs (pad ++ s.toList ++ pad')) = s := by
  rw [← String.toList_inj, shownIn, toList_trim, textOf, String.toList_ofList, flatten_signs,
    trimChars_append_right hpad', trimChars_append_left hpad]
  rcases h.neat with rfl | hsolid
  · rfl
  · exact hsolid.trimChars_eq

theorem Cell.head?_ne {s : String} (h : Cell s) : s.toList.head? ≠ some ' ' := by
  rcases h.neat with rfl | hsolid
  · simp
  · obtain ⟨c, rest, hs, hc⟩ := hsolid.front
    rw [hs, List.head?_cons]
    rintro ⟨⟩
    exact hc isBlank_space

theorem escape_ne_empty {s : String} (h : Shown s) : escape s ≠ "" := by
  have hvalue : escape? (some s) ≠ "" := escape?_ne_empty_iff.mpr (shows_some.mpr h)
  exact hvalue

/-- An escaped text has no blanks around it. -/
theorem solid_escape {s : String} (h : escape s ≠ "") : Solid (escape s).toList := by
  refine solid_of_trimChars_eq ?_ ?_
  · rw [toList_escape, escapeChars, trimChars_flatMap keepsBlanks_escapeChar, singleLineChars, trimChars_trimChars]
  · rw [← String.toList_empty, ne_eq, String.toList_inj]
    exact h

theorem cell_escape (s : String) : Cell (escape s) where
  inert := inert_escape s
  neat := by
    by_cases hempty : escape s = ""
    · exact .inl hempty
    · exact .inr (solid_escape hempty)

/-- The labels of cells. -/
def labels : List String := ["Email: ", "Mobile: ", "ID: "]

/-- A text behind a label. -/
theorem cell_labelled {label : String} (hlabel : label ∈ labels) {s : String} (hs : escape s ≠ "") :
    Cell (label ++ escape s) where
  inert := by
    have hlabels : ∀ label ∈ labels, label ∈ pads := by decide
    rw [String.toList_append]
    exact (inert_pad (hlabels label hlabel)).append (inert_escape s)
  neat := by
    have hlabels : ∀ label ∈ labels, (label.toList.head?.any fun c => !isBlank c) = true := by decide
    obtain ⟨c, hfirst, hc⟩ := (Option.any_eq_true _ _).mp (hlabels label hlabel)
    obtain ⟨rest, hrest⟩ := List.head?_eq_some_iff.mp hfirst
    obtain ⟨init, d, hlast, hd⟩ := (solid_escape hs).back
    rw [String.toList_append, hrest]
    exact .inr ⟨⟨c, rest ++ (escape s).toList, rfl, by simpa using hc⟩, c :: rest ++ init, d, by rw [hlast]; simp, hd⟩

/-- A text in large letters. -/
theorem cell_large (s : String) : Cell ("\\textbf\x7b\x7b\\LARGE " ++ escape s ++ "\x7d\x7d") where
  inert := by
    have hopen : depth false "\\textbf\x7b\x7b\\LARGE ".toList = 2 ∧
        endsOdd false "\\textbf\x7b\x7b\\LARGE ".toList = false ∧
        ∀ mark ∈ [rowEnd, columnMark], mark ∉ signs "\\textbf\x7b\x7b\\LARGE ".toList := by
      decide
    have hclose : depth false "\x7d\x7d".toList = -2 ∧ endsOdd false "\x7d\x7d".toList = false ∧
        ∀ mark ∈ [rowEnd, columnMark], mark ∉ signs "\x7d\x7d".toList := by
      decide
    have htext := inert_escape s
    rw [String.toList_append, String.toList_append]
    generalize "\\textbf\x7b\x7b\\LARGE ".toList = a at hopen
    generalize "\x7d\x7d".toList = b at hclose
    have heven : endsOdd false (a ++ (escape s).toList) = false := by rw [endsOdd_append, hopen.2.1, htext.even]
    refine ⟨?_, ?_, fun mark hmark => ?_⟩
    · rw [depth_append, depth_append, hopen.1, hopen.2.1, htext.closed, heven, hclose.1]
      rfl
    · rw [endsOdd_append, heven, hclose.2.1]
    · rw [signs_append heven, signs_append hopen.2.1, List.mem_append, List.mem_append, not_or, not_or]
      exact ⟨⟨hopen.2.2 mark hmark, htext.plain mark hmark⟩, hclose.2.2 mark hmark⟩
  neat := by
    have hopen : Solid "\\textbf\x7b\x7b\\LARGE".toList := solid_of_trimChars_eq (by decide) (by decide)
    have hclose : Solid "\x7d\x7d".toList := solid_of_trimChars_eq (by decide) (by decide)
    have hsolid := hopen.append hclose (" " ++ escape s).toList
    rw [← String.toList_append, ← String.toList_append, ← String.append_assoc] at hsolid
    exact .inr hsolid

/-! ### The head of the regional layout -/

/-- The lines of the address that show something. -/
def addressOf (p : Person) : List String :=
  (lines ((if isVisible p.residentialAddress then p.residentialAddress else p.location).getD "")).filter fun l =>
    isVisible (some l)

/-- A value, escaped, or the wording for one that is not given. -/
def given (value : Option String) : String := if isVisible value then escape? value else "Available upon request"

/-- The full name in large letters. -/
def nameCell (p : Person) : String :=
  "\\textbf\x7b\x7b\\LARGE " ++ " ".intercalate (([p.firstName, p.lastName].filter isVisible).map escape?) ++ "\x7d\x7d"

/-- The first line of the address. -/
def firstLine (p : Person) : String := ((addressOf p).map escape).headD ""

/-- The other lines of the address. -/
def otherLines (p : Person) : String := ", ".intercalate (((addressOf p).map escape).drop 1)

/-- The cells of the table at the head. -/
def headerCells (p : Person) : List (List String) :=
  [[nameCell p, "Email: " ++ given p.email],
   [firstLine p, "Mobile: " ++ given p.phone],
   [otherLines p, "ID: " ++ given p.identityNumber]]

/-- The table of three rows with the given cells. -/
def tableOf (name email address phone others number : String) : Block :=
  [tableStart, "  " ++ name ++ " & " ++ email ++ "\\\\", "  " ++ address ++ " & " ++ phone ++ " \\\\",
   "  " ++ others ++ " & " ++ number ++ " \\\\", tableEnd, ""]

/-- A row with two cells. -/
def rowOf (pad a b pad' : String) : List Sign := signs ((pad ++ a ++ " ").toList ++ '&' :: (" " ++ b ++ pad').toList)

/-- The end of the table. -/
def endOf : List Sign := signs ("\n" ++ tableEnd ++ "\n").toList

theorem inert_padded {pad pad' : String} (hpad : pad ∈ pads) (hpad' : pad' ∈ pads) {s : String} (hs : Cell s) :
    Inert (pad ++ s ++ pad').toList := by
  rw [String.toList_append, String.toList_append]
  exact ((inert_pad hpad).append hs.inert).append (inert_pad hpad')

section

variable {name email address phone others number : String}

theorem pieces_tableOf (h : ∀ c ∈ [name, email, address, phone, others, number], Cell c) :
    pieces (tableOf name email address phone others number) =
      [rowOf "  " name email "", rowOf "\n  " address phone " ", rowOf "\n  " others number " ", endOf] := by
  simp only [List.forall_mem_cons] at h
  obtain ⟨hname, hemail, haddress, hphone, hothers, hnumber, -⟩ := h
  have htext : ("\n".intercalate ((tableOf name email address phone others number).drop 1)).toList =
      ("  " ++ name ++ " ").toList ++ '&' :: (" " ++ email ++ "").toList ++ '\\' :: '\\' ::
        (("\n  " ++ address ++ " ").toList ++ '&' :: (" " ++ phone ++ " ").toList ++ '\\' :: '\\' ::
          (("\n  " ++ others ++ " ").toList ++ '&' :: (" " ++ number ++ " ").toList ++ '\\' :: '\\' ::
            ("\n" ++ tableEnd ++ "\n").toList)) := by
    simp [tableOf]
  have hlast : rowEnd ∉ endOf := by decide
  rw [pieces, htext, cutOutside_rows (inert_padded (by decide) (by decide) hname) (inert_padded (by decide) (by decide) hemail),
    cutOutside_rows (inert_padded (by decide) (by decide) haddress) (inert_padded (by decide) (by decide) hphone),
    cutOutside_rows (inert_padded (by decide) (by decide) hothers) (inert_padded (by decide) (by decide) hnumber)]
  rw [endOf] at hlast
  rw [cutOutside_of_not_mem hlast]
  rfl

theorem cellsOf_rowOf {pad pad' a b : String} (hpad : pad ∈ ["  ", "\n  "]) (hpad' : pad' ∈ ["", " "]) (ha : Cell a)
    (hb : Cell b) : cellsOf (rowOf pad a b pad') = [a, b] := by
  have hpads : ∀ pad ∈ ["  ", "\n  "], pad ∈ pads ∧ pad.toList.all isBlank := by decide
  have hpads' : ∀ pad ∈ ["", " "], pad ∈ pads ∧ pad.toList.all isBlank := by decide
  obtain ⟨hleft, hleftBlank⟩ := hpads pad hpad
  obtain ⟨hright, hrightBlank⟩ := hpads' pad' hpad'
  have hspace : " " ∈ pads := by decide
  have hspaceBlank : " ".toList.all isBlank := by decide
  have hcells : cellsOf (rowOf pad a b pad') =
      [shownIn (signs (pad ++ a ++ " ").toList), shownIn (signs (" " ++ b ++ pad').toList)] := by
    rw [cellsOf, rowOf, cutOutside_row (inert_padded hleft hspace ha) (inert_padded hspace hright hb)]
    rfl
  rw [hcells]
  simp only [String.toList_append, ha.shownIn_eq (List.all_eq_true.mp hleftBlank) (List.all_eq_true.mp hspaceBlank),
    hb.shownIn_eq (List.all_eq_true.mp hspaceBlank) (List.all_eq_true.mp hrightBlank)]

/-- The three rows are the rows of the table. -/
theorem rowsOf?_tableOf (h : ∀ c ∈ [name, email, address, phone, others, number], Cell c) :
    rowsOf? (pieces (tableOf name email address phone others number)) =
      some [[name, email], [address, phone], [others, number]] := by
  have hend : shownIn endOf = tableEnd := by decide
  rw [pieces_tableOf h]
  simp only [List.forall_mem_cons] at h
  obtain ⟨hname, hemail, haddress, hphone, hothers, hnumber, -⟩ := h
  rw [rowsOf?]
  simp [hend, cellsOf_rowOf, hname, hemail, haddress, hphone, hothers, hnumber]

/-- What follows the end of a row is the beginning of the next one. -/
theorem head?_skipBreak_rowOf {a b pad' : String} (ha : Cell a) {c : Char} (hc : IsTaken c) :
    (skipBreak (rowOf "\n  " a b pad')).head? = some [c] ↔ a.toList.head? = some c := by
  have htaken : c ≠ '\\' ∧ c ≠ '&' := by
    rcases hc with rfl | rfl
    · decide
    · decide
  have hrow : skipBreak (rowOf "\n  " a b pad') = dropSpaces (signs (a.toList ++ ' ' :: '&' :: (" " ++ b ++ pad').toList)) := by
    have hsigns : rowOf "\n  " a b pad' =
        ['\n'] :: [' '] :: [' '] :: signs (a.toList ++ ' ' :: '&' :: (" " ++ b ++ pad').toList) := by
      simp [rowOf, signs_cons]
    rw [hsigns]
    rfl
  have hspace := ha.head?_ne
  rw [hrow]
  cases hchars : a.toList with
  | nil =>
    have hmark : dropSpaces (signs ([] ++ ' ' :: '&' :: (" " ++ b ++ pad').toList)) =
        ['&'] :: signs (" " ++ b ++ pad').toList := by
      rw [List.nil_append, signs_cons (by decide), signs_cons (by decide)]
      rfl
    rw [hmark]
    simpa using htaken.2.symm
  | cons d ds =>
    rw [hchars] at hspace
    have hfirst : (d :: ds ++ ' ' :: '&' :: (" " ++ b ++ pad').toList).head? ≠ some ' ' := hspace
    rw [dropSpaces_signs hfirst, head?_signs htaken.1]
    rfl

/-- What follows the ends of rows is the beginnings of the other rows. -/
theorem forall_tail_pieces_iff (h : ∀ c ∈ [name, email, address, phone, others, number], Cell c) :
    (∀ t ∈ (pieces (tableOf name email address phone others number)).tail, ∀ c, (skipBreak t).head? = some [c] →
      ¬ IsTaken c) ↔ ∀ s ∈ [address, others], ∀ c, s.toList.head? = some c → ¬ IsTaken c := by
  have hend : (skipBreak endOf).head? = some ['\\', 'e'] := by decide
  rw [pieces_tableOf h]
  simp only [List.forall_mem_cons] at h
  obtain ⟨-, -, haddress, -, hothers, -⟩ := h
  have hrow : ∀ {a b pad' : String}, Cell a → ((∀ c, (skipBreak (rowOf "\n  " a b pad')).head? = some [c] → ¬ IsTaken c) ↔
      ∀ c, a.toList.head? = some c → ¬ IsTaken c) := by
    intro a b pad' ha
    exact forall_not_isTaken_congr fun c htaken => head?_skipBreak_rowOf ha htaken
  simp [hrow haddress, hrow hothers, hend]

end

/-- The wording for a value that is not given is escaped, too. -/
theorem given_eq (value : Option String) : given value = escape? (orElse value unavailable) := by
  have hwording : escape "Available upon request" = "Available upon request" := by decide
  rw [given, orElse]
  split
  · rfl
  · exact hwording.symm

theorem cell_given {label : String} (hlabel : label ∈ labels) (value : Option String) : Cell (label ++ given value) := by
  have hwording : escape unavailable ≠ "" := by decide
  rw [given_eq, orElse]
  split
  · rename_i hvisible
    obtain ⟨s, rfl, hs⟩ := isVisible_iff.mp hvisible
    exact cell_labelled hlabel (escape_ne_empty hs)
  · exact cell_labelled hlabel hwording

/-- The lines of an address are trimmed. -/
theorem addressLines_eq (p : Person) : addressLines p = (addressOf p).map trim := by
  unfold addressLines addressOf
  rw [List.filter_map]
  refine congrArg _ (List.filter_congr fun l _ => ?_)
  rw [Bool.eq_iff_iff]
  simp [isVisible]

theorem map_escape_addressLines (p : Person) : (addressLines p).map escape = (addressOf p).map escape := by
  rw [addressLines_eq, List.map_map]
  exact List.map_congr_left fun l _ => escape_trim l

theorem nameCell_eq (r : Resume) :
    nameCell r.person = "\\textbf\x7b\x7b\\LARGE " ++ escape (fullName r) ++ "\x7d\x7d" := by
  unfold nameCell fullName
  rw [escape_trimJoin (by decide)]

theorem firstLine_eq (p : Person) : firstLine p = escape ((addressLines p).headD "") := by
  rw [firstLine, ← map_escape_addressLines]
  cases addressLines p with
  | nil => rfl
  | cons l ls => rfl

/-- The other lines are escaped one by one. -/
theorem otherLines_eq (p : Person) : otherLines p = escape (", ".intercalate ((addressLines p).drop 1)) := by
  have hsolid : ∀ l ∈ addressLines p, Solid l.toList := by
    rw [addressLines_eq]
    exact List.forall_mem_map.mpr fun l hl => solid_trim (isVisible_some_iff.mp (List.mem_filter.mp hl).2)
  rw [otherLines, escape_intercalate (by decide) fun l hl => hsolid l (List.mem_of_mem_drop hl), List.map_drop,
    map_escape_addressLines]

/-- The header is the table with its cells. -/
theorem header_eq (r : Resume) :
    header r = tableOf (nameCell r.person) ("Email: " ++ given r.person.email) (firstLine r.person)
      ("Mobile: " ++ given r.person.phone) (otherLines r.person) ("ID: " ++ given r.person.identityNumber) := by
  have hname : ∀ name email, "  \\textbf" ++ braced ("\x7b\\LARGE " ++ name ++ "\x7d") ++ " & Email: " ++ email ++ "\\\\" =
      "  " ++ ("\\textbf\x7b\x7b\\LARGE " ++ name ++ "\x7d\x7d") ++ " & " ++ ("Email: " ++ email) ++ "\\\\" := by
    intro name email
    rw [← String.toList_inj]
    simp [braced]
  have haddress : ∀ line phone, "  " ++ line ++ " & Mobile: " ++ phone ++ " \\\\" =
      "  " ++ line ++ " & " ++ ("Mobile: " ++ phone) ++ " \\\\" := by
    intro line phone
    rw [← String.toList_inj]
    simp
  have hnumber : ∀ line number, "  " ++ line ++ " & ID: " ++ number ++ " \\\\" =
      "  " ++ line ++ " & " ++ ("ID: " ++ number) ++ " \\\\" := by
    intro line number
    rw [← String.toList_inj]
    simp
  simp only [header, hname, haddress, hnumber, given_eq, nameCell_eq, firstLine_eq, otherLines_eq]
  rfl

theorem cell_of_mem_headerCells (p : Person) :
    ∀ c ∈ [nameCell p, "Email: " ++ given p.email, firstLine p, "Mobile: " ++ given p.phone, otherLines p,
      "ID: " ++ given p.identityNumber], Cell c := by
  have hname : Cell (nameCell p) := nameCell_eq { person := p } ▸ cell_large _
  simp only [List.forall_mem_cons, List.not_mem_nil, false_implies, implies_true, and_true]
  exact ⟨hname, cell_given (by decide) _, firstLine_eq p ▸ cell_escape _, cell_given (by decide) _,
    otherLines_eq p ▸ cell_escape _, cell_given (by decide) _⟩

/-- Neither of the first two lines of the address begins with a character that the end of a row takes. -/
def Untaken (p : Person) : Prop := ∀ l ∈ (addressOf p).take 2, ∀ c, Begins c l → ¬ IsTaken c

theorem head?_intercalate {separator t : String} (ht : t ≠ "") (ts : List String) :
    (separator.intercalate (t :: ts)).toList.head? = t.toList.head? := by
  have hne : t.toList ≠ [] := by rwa [← String.toList_empty, ne_eq, String.toList_inj]
  cases ts with
  | nil => rw [String.intercalate_singleton]
  | cons u ts =>
    rw [String.intercalate_cons_cons, String.toList_append, String.toList_append, List.append_assoc,
      List.head?_append_of_ne_nil _ hne]

theorem untaken_iff (p : Person) :
    Untaken p ↔ ∀ s ∈ [firstLine p, otherLines p], ∀ c, s.toList.head? = some c → ¬ IsTaken c := by
  have hline : ∀ l, (∀ c, (escape l).toList.head? = some c → ¬ IsTaken c) ↔ ∀ c, Begins c l → ¬ IsTaken c := by
    intro l
    refine forall_not_isTaken_congr ?_
    rintro c (rfl | rfl)
    · exact head?_escape (by decide) (by decide) l
    · exact head?_escape (by decide) (by decide) l
  have hshown : ∀ l ∈ addressOf p, escape l ≠ "" := fun l hl =>
    escape_ne_empty (isVisible_some_iff.mp (List.mem_filter.mp hl).2)
  rw [Untaken, firstLine, otherLines]
  generalize addressOf p = address at hshown
  match address with
  | [] => simp
  | [l] => simp [hline, -toList_escape]
  | l :: l' :: ls =>
    have hothers : (", ".intercalate (escape l' :: ls.map escape)).toList.head? = (escape l').toList.head? :=
      head?_intercalate (hshown l' (by simp)) _
    simp [hline, hothers, -toList_escape, -String.toList_intercalate]

/-- The table at the head is read as three rows of two cells exactly when neither of the first two lines of
the address begins with a star or a bracket; else other cells are read, and such a character follows the
end of a row. -/
theorem readTable_header_iff (r : Resume) :
    (readTable (header r) = some (headerCells r.person) ↔ Untaken r.person) ∧
    ((∀ t ∈ (pieces (header r)).tail, ∀ c, (skipBreak t).head? = some [c] → ¬ IsTaken c) ↔ Untaken r.person) := by
  have hcells := cell_of_mem_headerCells r.person
  have htail := (forall_tail_pieces_iff hcells).trans (untaken_iff r.person).symm
  have hrows := rowsOf?_tableOf hcells
  rw [← header_eq] at htail hrows
  exact ⟨(readTable_iff rfl hrows).trans htail, htail⟩

/-- A person who lives at an address that begins with a number in brackets. -/
def unitPerson : Person := { residentialAddress := some "[Unit 5] Long Street" }

set_option maxRecDepth 4000 in
/-- An address that begins with a number in brackets loses the number. -/
theorem readTable_header_unit :
    readTable (header { person := unitPerson }) =
      some [["\\textbf\x7b\x7b\\LARGE \x7d\x7d", "Email: Available upon request"],
        ["Long Street", "Mobile: Available upon request"], ["", "ID: Available upon request"]] ∧
    headerCells unitPerson =
      [["\\textbf\x7b\x7b\\LARGE \x7d\x7d", "Email: Available upon request"],
        ["[Unit 5] Long Street", "Mobile: Available upon request"], ["", "ID: Available upon request"]] := by
  have hstart : (header { person := unitPerson }).head? = some tableStart := rfl
  have hpieces := pieces_tableOf (cell_of_mem_headerCells unitPerson)
  constructor
  · rw [readTable, if_pos hstart, header_eq, hpieces]
    decide
  · decide

end Vitae.Regional
