import Vitae.Layout.Regional
import Vitae.Proofs.Latex.Options

/-!
# Reading tables

LaTeX ends a row of a table at two backslashes, outside of groups. A star behind them, and an
optional argument behind that, belong to the command, also when spaces and one line break
stand between (`behindRowEnd`). The cells of a row stand between ampersands outside of groups.

The cells of a row weigh as much as the row does without its marks (`weigh_cellsOf`). So
the rows of a table are read as they stand exactly when no end of a row is followed by a star
or a bracket (`readTable_iff`): what the command takes is missing in some cell, or in some
row.
-/

namespace Vitae.Regional

open Text Latex Section

/-! ### The reader -/

/-- The line that begins the table. -/
def tableStart : String :=
  "\\begin\x7btabular*\x7d\x7b\\textwidth\x7d\x7bl@\x7b\\extracolsep\x7b\\fill\x7d\x7dr\x7d"

/-- The line that ends it. -/
def tableEnd : String := "\\end\x7btabular*\x7d"

/-- What stands behind spaces and one line break. -/
def skipBreak (ss : List Sign) : List Sign :=
  match dropSpaces ss with
  | ['\n'] :: rest => dropSpaces rest
  | rest => rest

/-- What stands behind a star, if there is one. -/
def skipStar (ss : List Sign) : List Sign :=
  match ss with
  | ['*'] :: rest => skipBreak rest
  | _ => ss

/-- What stands behind the end of a row, without a star that belongs to it. -/
def behindRowEnd (ss : List Sign) : List Sign := skipStar (skipBreak ss)

/-- The first row of a table, and what stands behind each of the ends of its rows. -/
def pieces (b : Block) : List (List Sign) := cutOutside rowEnd 0 (signs ("\n".intercalate (b.drop 1)).toList)

/-- A text without the blanks around it. -/
def shownIn (ss : List Sign) : String := trim (textOf ss)

/-- The cells of a row. -/
def cellsOf (ss : List Sign) : List String := (cutOutside columnMark 0 ss).map shownIn

/-- The rows, the last of which is to be the end of the table. -/
def rowsOf? (rows : List (List Sign)) : Option (List (List String)) :=
  if rows.getLast?.map shownIn = some tableEnd then some (rows.dropLast.map cellsOf) else none

/-- The cells of a table, row by row; nothing if the block is no table, or an optional argument is never
closed. -/
def readTable (b : Block) : Option (List (List String)) :=
  if b.head? = some tableStart then
    (readOptions [rowEnd] behindRowEnd none (pieces b).tail).bind fun rs =>
      rowsOf? ((pieces b).take 1 ++ rs.map Reading.content)
  else none

/-- A character that the end of a row takes. -/
def IsTaken (c : Char) : Prop := c = '*' ∨ c = '['

/-- Conditions on such characters, with the same meaning for each of them, say the same. -/
theorem forall_not_isTaken_congr {p q : Char → Prop} (h : ∀ c, IsTaken c → (p c ↔ q c)) :
    (∀ c, p c → ¬ IsTaken c) ↔ ∀ c, q c → ¬ IsTaken c := by
  refine forall_congr' fun c => ⟨?_, ?_⟩
  · exact fun hp hq htaken => hp ((h c htaken).mpr hq) htaken
  · exact fun hq hp htaken => hq ((h c htaken).mp hp) htaken

/-! ### What is skipped -/

/-- What does not change with a blank in front does not depend on what is skipped there. -/
theorem apply_skipBreak {β : Type} (f : List Sign → β) (h : ∀ c, isBlank c → ∀ ss, f ([c] :: ss) = f ss)
    (ss : List Sign) : f (skipBreak ss) = f ss := by
  have hspaces : ∀ ss, f (dropSpaces ss) = f ss := apply_dropSpaces f (h ' ' isBlank_space)
  rw [← hspaces ss, skipBreak]
  split
  · rename_i rest hrest
    rw [hrest, hspaces, h '\n' (by decide)]
  · rfl

theorem weigh_skipBreak (ss : List Sign) : weigh (skipBreak ss).flatten = weigh ss.flatten := by
  refine apply_skipBreak (fun ss => weigh ss.flatten) (fun c hc ss => ?_) ss
  have hblank : weigh [c] = 0 := by simp [weigh, hc]
  rw [List.flatten_cons, weigh_append, hblank, Nat.zero_add]

theorem skipStar_eq {ss : List Sign} (h : ss.head? ≠ some ['*']) : skipStar ss = ss := by
  unfold skipStar
  split
  · exact absurd rfl h
  · rfl

theorem weigh_skipStar_lt {ss : List Sign} (h : ss.head? = some ['*']) :
    weigh (skipStar ss).flatten < weigh ss.flatten := by
  obtain ⟨rest, rfl⟩ := List.head?_eq_some_iff.mp h
  have hstar : weigh ['*'] = 1 := by decide
  have hskip : skipStar (['*'] :: rest) = skipBreak rest := rfl
  rw [hskip, weigh_skipBreak, List.flatten_cons, weigh_append, hstar]
  omega

theorem weigh_behindRowEnd_le (ss : List Sign) : weigh (behindRowEnd ss).flatten ≤ weigh ss.flatten := by
  rw [behindRowEnd, ← weigh_skipBreak ss]
  by_cases hstar : (skipBreak ss).head? = some ['*']
  · exact (weigh_skipStar_lt hstar).le
  · rw [skipStar_eq hstar]

/-- Nothing is taken where no such character follows. -/
theorem behindRowEnd_of_not_taken {ss : List Sign} (h : ∀ c, (skipBreak ss).head? = some [c] → ¬ IsTaken c) :
    behindRowEnd ss = skipBreak ss ∧ opened? (behindRowEnd ss) = none := by
  have hskip : behindRowEnd ss = skipBreak ss := skipStar_eq fun hstar => h '*' hstar (.inl rfl)
  exact ⟨hskip, by rw [hskip, opened?_eq_none_iff]; exact fun hbracket => h '[' hbracket (.inr rfl)⟩

/-- Where one follows, something is. -/
theorem not_taken_of_behindRowEnd {ss : List Sign} (hopened : opened? (behindRowEnd ss) = none)
    (hweigh : weigh (behindRowEnd ss).flatten = weigh ss.flatten) :
    ∀ c, (skipBreak ss).head? = some [c] → ¬ IsTaken c := by
  have hstar : (skipBreak ss).head? ≠ some ['*'] := by
    intro hstar
    have hless := weigh_skipStar_lt hstar
    rw [weigh_skipBreak] at hless
    rw [behindRowEnd] at hweigh
    omega
  rw [behindRowEnd, skipStar_eq hstar, opened?_eq_none_iff] at hopened
  rintro c hc (rfl | rfl)
  · exact hstar hc
  · exact hopened hc

/-! ### Cells -/

theorem weigh_shownIn (ss : List Sign) : weigh (shownIn ss).toList = weigh ss.flatten := by
  rw [shownIn, toList_trim, weigh_trimChars, textOf, String.toList_ofList]

/-- The weight of cells, each with a mark. -/
def weighCells : List String → ℕ
  | [] => 0
  | c :: cs => weigh c.toList + 1 + weighCells cs

/-- A row weighs as its cells and the marks between them do. -/
theorem weigh_cellsOf (ss : List Sign) : weigh ss.flatten + 1 = weighCells (cellsOf ss) := by
  have hpieces : ∀ d : ℤ, weigh ss.flatten + 1 = weighCells ((cutOutside columnMark d ss).map shownIn) := by
    induction ss with
    | nil => exact fun d => rfl
    | cons s ss ih =>
      intro d
      rw [cutOutside]
      split
      · rename_i hs
        have hmark : weigh columnMark = 1 := by decide
        rw [List.map_cons, weighCells, ← ih 0, weigh_shownIn, List.flatten_cons, weigh_append, hs.1, hmark]
        simp [weigh]
        omega
      · have hrest := ih (d + gain s)
        cases hcut : cutOutside columnMark (d + gain s) ss with
        | nil =>
          rw [hcut] at hrest
          cases hrest
        | cons p ps =>
          rw [hcut, List.map_cons, weighCells, weigh_shownIn] at hrest
          rw [List.modifyHead_cons, List.map_cons, weighCells, weigh_shownIn, List.flatten_cons, List.flatten_cons,
            weigh_append, weigh_append]
          omega
  exact hpieces 0

theorem shownIn_cons {c : Char} (hc : isBlank c) (ss : List Sign) : shownIn ([c] :: ss) = shownIn ss := by
  have hblank : ∀ d ∈ [c], isBlank d := by simpa using hc
  rw [← String.toList_inj, shownIn, shownIn, toList_trim, toList_trim, textOf, textOf, String.toList_ofList,
    String.toList_ofList, List.flatten_cons, trimChars_append_left hblank]

/-- A blank in front of a row changes no cell. -/
theorem cellsOf_cons {c : Char} (hc : isBlank c) (ss : List Sign) : cellsOf ([c] :: ss) = cellsOf ss := by
  have hmark : [c] ≠ columnMark := by
    intro h
    obtain rfl : c = '&' := by simpa [columnMark] using h
    exact absurd hc (by decide)
  have hgain : gain [c] = 0 := by
    have hplain := isGrouping_eq_false_of (isBlank ·) hc (by decide)
    simp only [isGrouping, Bool.or_eq_false_iff, decide_eq_false_iff_not] at hplain
    simp [gain, hplain]
  rw [cellsOf, cutOutside, if_neg fun h => hmark h.1, hgain, Int.add_zero, cellsOf]
  cases cutOutside columnMark 0 ss with
  | nil => rfl
  | cons p ps => rw [List.modifyHead_cons, List.map_cons, List.map_cons, shownIn_cons hc]

theorem shownIn_skipBreak (ss : List Sign) : shownIn (skipBreak ss) = shownIn ss :=
  apply_skipBreak shownIn (fun _ => shownIn_cons) ss

theorem cellsOf_skipBreak (ss : List Sign) : cellsOf (skipBreak ss) = cellsOf ss :=
  apply_skipBreak cellsOf (fun _ => cellsOf_cons) ss

/-! ### Rows -/

/-- What is skipped in front of the rows behind the first one changes nothing. -/
theorem rowsOf?_skipBreak (first : List Sign) (rest : List (List Sign)) :
    rowsOf? (first :: rest.map skipBreak) = rowsOf? (first :: rest) := by
  have hmap : ∀ {β : Type} (f : List Sign → β), (∀ ss, f (skipBreak ss) = f ss) →
      (first :: rest.map skipBreak).map f = (first :: rest).map f := by
    intro β f hf
    rw [List.map_cons, List.map_cons, List.map_map]
    exact congrArg _ (List.map_congr_left fun t _ => hf t)
  rw [rowsOf?, rowsOf?, ← List.getLast?_map, ← List.getLast?_map, hmap shownIn shownIn_skipBreak, List.map_dropLast,
    List.map_dropLast, hmap cellsOf cellsOf_skipBreak]

/-- Rows with the same cells and the same end weigh the same. -/
theorem map_weigh_eq {rows rows' : List (List Sign)} {cells : List (List String)} (h : rowsOf? rows = some cells)
    (h' : rowsOf? rows' = some cells) : (rows.map fun r => weigh r.flatten) = rows'.map fun r => weigh r.flatten := by
  have key : ∀ {rows : List (List Sign)}, rowsOf? rows = some cells →
      (rows.map fun r => weigh r.flatten) =
        (cells.map fun row => weighCells row - 1) ++ [weigh tableEnd.toList] := by
    intro rows h
    rw [rowsOf?] at h
    split at h
    · rename_i hend
      obtain ⟨last, hlast, hshown⟩ := Option.map_eq_some_iff.mp hend
      rw [← Option.some.inj h, List.map_map, ← hshown, weigh_shownIn]
      conv_lhs => rw [← List.dropLast_append_getLast? last hlast]
      rw [List.map_append, List.map_singleton]
      refine congrArg (· ++ _) (List.map_congr_left fun r _ => ?_)
      rw [Function.comp_apply, ← weigh_cellsOf, Nat.add_sub_cancel]
    · cases h
  rw [key h, key h']

/-- A table is read as its rows stand exactly when nothing follows the end of a row that it takes. -/
theorem readTable_iff {b : Block} (hstart : b.head? = some tableStart) {cells : List (List String)}
    (hrows : rowsOf? (pieces b) = some cells) :
    readTable b = some cells ↔ ∀ t ∈ (pieces b).tail, ∀ c, (skipBreak t).head? = some [c] → ¬ IsTaken c := by
  rw [readTable, if_pos hstart]
  generalize pieces b = rows at hrows
  cases rows with
  | nil =>
    rw [rowsOf?, List.getLast?_nil] at hrows
    cases hrows
  | cons first rest =>
    simp only [List.tail_cons, List.take_succ_cons, List.take_zero, List.singleton_append]
    constructor
    · intro h
      obtain ⟨rs, hrs, hread⟩ := Option.bind_eq_some_iff.mp h
      have hweigh := map_weigh_eq hread hrows
      rw [List.map_cons, List.map_cons, List.map_map] at hweigh
      have hnone := opened?_of_readOptions weigh_behindRowEnd_le hrs (List.cons.inj hweigh).2
      exact fun t ht => not_taken_of_behindRowEnd (hnone t ht).1 (hnone t ht).2
    · intro h
      have hopened : ∀ t ∈ rest, opened? (behindRowEnd t) = none := fun t ht => (behindRowEnd_of_not_taken (h t ht)).2
      have hread : (rest.map fun t => (⟨none, behindRowEnd t⟩ : Reading)).map Reading.content = rest.map skipBreak := by
        rw [List.map_map]
        exact List.map_congr_left fun t ht => (behindRowEnd_of_not_taken (h t ht)).1
      rw [readOptions_of_forall hopened, Option.bind_some, hread, rowsOf?_skipBreak, hrows]

end Vitae.Regional
