import Vitae.Proofs.Document.Rendering
import Vitae.Proofs.Text.BlankRuns

/-!
# How a body is spaced

The lines of the blocks are the lines of one text, of which the blank lines are limited to one. So
the body shows the lines that the blocks show, as they are and in their order, and a run of blank
lines between two of them has become one blank line (`renderBody_spaced`). No line of a block holds
a line feed (`not_mem_of_tidy`), so the lines of the text are those of the blocks
(`innerRuns_bodyText`).
-/

namespace Vitae.Layout

open Text

/-- The runs of blank lines in a body are those of the lines that it is made of, limited to one. -/
theorem innerRuns_bodyText {lines exempt : List String} (h : Section.Tidy lines exempt) :
    innerRuns (splitChars '\n' (bodyText lines)) = (innerRuns (lines.map String.toList)).map fun n => min n 1 := by
  rw [bodyText]
  have hlimited := innerRuns_limitBlankLinesChars_of_le_one (Nat.le_refl 1) (['\n'].intercalate (lines.map String.toList))
  by_cases hnil : lines.map String.toList = []
  · rw [hnil]
    rfl
  · rw [splitChars_intercalate hnil (not_mem_of_tidy h)] at hlimited
    exact hlimited

end Vitae.Layout

namespace Vitae.Assembler

open Text Layout

/-- What a body has of the lines that it is made of. -/
structure IsSpaced (rendered : List String) (text : String) : Prop where
  /-- The lines that show something are the rendered ones, in their order. -/
  lines_eq : shownLines (splitChars '\n' text.toList) = shownLines (rendered.map String.toList)
  /-- A run of blank lines between two of them is limited to one line. -/
  runs_eq : innerRuns (splitChars '\n' text.toList) = (innerRuns (rendered.map String.toList)).map fun n => min n 1
  /-- No two blank lines follow each other between two lines that show something. -/
  runs_le : ∀ n ∈ innerRuns (splitChars '\n' text.toList), n ≤ 1
  /-- No rendered line that shows something is lost. -/
  mem_lines : ∀ l ∈ rendered, isBlankText l = false → l.toList ∈ splitChars '\n' text.toList

/-- **Blank lines are limited.** With a limit of no blank line or one, the lines that show something stay as they
are, in their order. A run of blank lines between two of them becomes as long as the limit if it is longer, and
keeps its length otherwise. Limiting once more changes nothing. The limit of a body is one: it has the lines of
its blocks that show something, and never two blank lines between two of them. -/
theorem renderBody_spaced :
    (∀ limit : Nat, limit ≤ 1 → ∀ s : String,
      shownLines (splitChars '\n' (limitBlankLines limit s).toList) = shownLines (splitChars '\n' s.toList) ∧
      innerRuns (splitChars '\n' (limitBlankLines limit s).toList) =
        (innerRuns (splitChars '\n' s.toList)).map (fun n => min n limit) ∧
      limitBlankLines limit (limitBlankLines limit s) = limitBlankLines limit s) ∧
    ∀ (a : Assembler) (id : String) (r : Resume) (today : Calendar.Date), (a.layoutFor id).IsJudged r today →
      ∃ bs text, (a.layoutFor id).blocks r today = .ok bs ∧ (a.renderBody id r today).1 = .ok text ∧
        IsSpaced bs.flatten text := by
  constructor
  · intro limit hlimit s
    have hm : (0 : Int) ≤ limit := Int.natCast_nonneg limit
    refine ⟨?_, ?_, limitBlankLines_limitBlankLines hm s⟩
    · rw [limitBlankLines, String.toList_ofList]
      exact shownLines_limitBlankLines hm _
    · rw [limitBlankLines, String.toList_ofList]
      exact innerRuns_limitBlankLinesChars_of_le_one hlimit _
  · intro a id r today h
    obtain ⟨bs, text, hbs, hbody, htext, htidy⟩ := exists_renderBody h
    have hlines : shownLines (splitChars '\n' text.toList) = shownLines (bs.flatten.map String.toList) := by
      rw [htext]
      exact shownLines_bodyText htidy
    have hruns : innerRuns (splitChars '\n' text.toList) =
        (innerRuns (bs.flatten.map String.toList)).map fun n => min n 1 := by
      rw [htext]
      exact innerRuns_bodyText htidy
    refine ⟨bs, text, hbs, hbody, hlines, hruns, ?_, fun l hl hshown => ?_⟩
    · rw [hruns]
      exact List.forall_mem_map.mpr fun n _ => Nat.min_le_right n 1
    · have hmem : l.toList ∈ shownLines (bs.flatten.map String.toList) :=
        List.mem_filter.mpr ⟨List.mem_map_of_mem hl, by simpa [isBlankText] using hshown⟩
      rw [← hlines] at hmem
      exact (List.mem_filter.mp hmem).1

theorem renderBody_spaced_graduate :
    (1 ≤ 1 ∧ innerRuns (splitChars '\n' (limitBlankLines 1 spacedText).toList) = [1, 0]) ∧
    ∃ bs text, (layoutFor { library := default } "template01").blocks graduate newYear = .ok bs ∧
      (renderBody { library := default } "template01" graduate newYear).1 = .ok text ∧
      IsSpaced bs.flatten text := by
  obtain ⟨hlimit, hbody⟩ := renderBody_spaced
  obtain ⟨-, hruns, -⟩ := hlimit 1 (Nat.le_refl 1) spacedText
  have hinner : innerRuns (splitChars '\n' spacedText.toList) = [2, 0] := by decide
  rw [hinner] at hruns
  exact ⟨⟨Nat.le_refl 1, hruns⟩, hbody { library := default } "template01" graduate newYear isJudged_graduate⟩

end Vitae.Assembler
