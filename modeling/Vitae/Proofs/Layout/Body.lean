import Vitae.Proofs.Layout.Regional
import Vitae.Proofs.Section.Standard
import Vitae.Proofs.Text.BlankLines

/-!
# Bodies of documents

A body is made of the lines of tidy blocks, with blank lines taken out or put in. So its
lines are blank or lines of a block (`blank_or_mem_of_mem_lines`), and what is true of
each line on its own is true of the body: its braces, its arguments and its calls. What is
begun and ended is carried over by the lines that show something
(`nested_bodyText`).

There is a body when the layout draws one and no date stands in its way
(`Layout.isJudged_iff`).
-/

namespace Vitae.Layout

open Text Latex Calendar Section

/-! ### When there is a body -/

/-- The layout draws bodies, and each date that it compares with `today` can be judged. -/
def IsJudged : Layout → Resume → Date → Prop
  | .standard, r, today =>
    ∀ s ∈ r.studies, ∃ later, isFuture (firstShown [s.graduationDate, s.endDate]) today = .ok later
  | .regional, _, _ => True
  | .undefined, _, _ => False

theorem firstShown_cases (values : List (Option DateValue)) :
    firstShown values = none ∨ display? (firstShown values) ≠ "" := by
  induction values with
  | nil => exact .inl rfl
  | cons value values ih =>
    rw [firstShown]
    split
    · exact .inr ‹_›
    · exact ih

/-- The dates of a course of study are shown when its end can be judged. -/
theorem exists_studyDates_iff (s : Study) (today : Date) :
    (∃ dates, studyDates s today = .ok dates) ↔
      ∃ later, isFuture (firstShown [s.graduationDate, s.endDate]) today = .ok later := by
  rw [studyDates, Calendar.study]
  split
  · constructor
    · rintro ⟨dates, h⟩
      obtain ⟨later, hlater, -⟩ := exists_of_bind_eq_ok h
      exact ⟨later, hlater⟩
    · rintro ⟨later, hlater⟩
      exact ⟨_, by rw [hlater]; rfl⟩
  · rename_i hshown
    rcases firstShown_cases [s.graduationDate, s.endDate] with hnone | hsome
    · rw [hnone]
      refine ⟨fun _ => ⟨false, rfl⟩, fun _ => ?_⟩
      split
      · exact ⟨_, rfl⟩
      · exact ⟨_, rfl⟩
    · exact absurd hsome hshown

theorem exists_studyLine?_iff (today : Date) (s : Study) :
    (∃ l, studyLine? today s = .ok l) ↔
      ∃ later, isFuture (firstShown [s.graduationDate, s.endDate]) today = .ok later := by
  rw [← exists_studyDates_iff, studyLine?]
  constructor
  · rintro ⟨l, h⟩
    obtain ⟨dates, hdates, -⟩ := exists_of_bind_eq_ok h
    exact ⟨dates, hdates⟩
  · rintro ⟨dates, hdates⟩
    exact ⟨_, by rw [hdates]; rfl⟩

theorem exists_standardBlocks_iff (r : Resume) (today : Date) :
    (∃ blocks, standardBlocks r today = .ok blocks) ↔ IsJudged .standard r today := by
  have hlines : IsJudged .standard r today ↔ ∃ items, r.studies.mapM (studyLine? today) = .ok items := by
    rw [exists_mapM_iff]
    exact forall₂_congr fun s _ => (exists_studyLine?_iff today s).symm
  rw [hlines, standardBlocks, standardSections, Section.education]
  constructor
  · rintro ⟨blocks, h⟩
    obtain ⟨sections, h, -⟩ := exists_of_bind_eq_ok h
    obtain ⟨education, h, -⟩ := exists_of_bind_eq_ok h
    obtain ⟨items, hitems, -⟩ := exists_of_bind_eq_ok h
    exact ⟨items, hitems⟩
  · rintro ⟨items, hitems⟩
    exact ⟨_, by rw [hitems]; rfl⟩

/-- There are blocks when the layout draws them and no date stands in their way. -/
theorem isJudged_iff (layout : Layout) (r : Resume) (today : Date) :
    layout.IsJudged r today ↔ ∃ blocks, layout.blocks r today = .ok blocks := by
  cases layout with
  | standard =>
    rw [← exists_standardBlocks_iff, blocks]
    cases standardBlocks r today with
    | ok bs => exact ⟨fun _ => ⟨bs, rfl⟩, fun _ => ⟨bs, rfl⟩⟩
    | error e =>
      constructor
      · rintro ⟨bs, h⟩
        exact absurd h (by simp)
      · rintro ⟨bs, h⟩
        cases h
  | regional => exact ⟨fun _ => ⟨_, rfl⟩, fun _ => trivial⟩
  | undefined => simp [IsJudged, blocks]

/-- The lines of a layout that may show reserved characters: the link in the footer, and the rows at
the head. -/
def exempt : Layout → Resume → List String
  | .standard, r => [linkLine r.trackingUrl]
  | .regional, r => Regional.headerRows r
  | .undefined, _ => []

/-- All blocks of a layout are tidy, so their lines are. -/
theorem tidy_blocks {layout : Layout} {r : Resume} {today : Date} {bs : List Block}
    (h : layout.blocks r today = .ok bs) : Tidy bs.flatten (layout.exempt r) := by
  have hall : ∀ b ∈ bs, Tidy b (layout.exempt r) := by
    cases layout with
    | standard =>
      cases hstandard : standardBlocks r today with
      | error e =>
        rw [blocks, hstandard] at h
        cases h
      | ok standard =>
        rw [blocks, hstandard] at h
        rw [← Except.ok.inj h]
        exact tidy_of_standardBlocks hstandard
    | regional =>
      rw [← Except.ok.inj h]
      exact fun b hb => Regional.tidy_of_mem_blocks hb
    | undefined => exact absurd h (by simp [blocks])
  rw [← List.flatMap_id]
  exact tidy_flatMap hall

/-! ### The lines of a body -/

/-- The text of a body that is made of the given lines. -/
def bodyText (lines : List String) : List Char :=
  limitBlankLinesChars 1 (['\n'].intercalate (lines.map String.toList))

theorem body_eq_ok_iff {layout : Layout} {r : Resume} {today : Date} {text : String} :
    layout.body r today = .ok text ↔
      ∃ bs, layout.blocks r today = .ok bs ∧ text.toList = bodyText bs.flatten := by
  have htext : ∀ lines : List String, (limitBlankLines 1 ("\n".intercalate lines)).toList = bodyText lines :=
    fun lines => by rw [limitBlankLines, String.toList_ofList, String.toList_intercalate]; rfl
  rw [body]
  cases layout.blocks r today with
  | error e => simp [Except.map]
  | ok bs => simp [Except.map, ← htext, String.toList_inj, eq_comm]

/-- Blank lines have no marks. -/
theorem flatMap_marks_shownLines (ls : List (List Char)) :
    (shownLines ls).flatMap marks = ls.flatMap marks := by
  induction ls with
  | nil => rfl
  | cons l ls ih =>
    rw [shownLines, List.filter_cons]
    split
    · rw [List.flatMap_cons, List.flatMap_cons, ← ih]
      rfl
    · rename_i hblank
      have hno : '\\' ∉ l := by
        intro hc
        have hall : isBlankChars l := by simpa using hblank
        exact absurd (List.all_eq_true.mp hall _ hc) (by decide)
      rw [List.flatMap_cons, marks_of_no_backslash hno, List.nil_append]
      exact ih

section lines

variable {lines exempt : List String} (h : Tidy lines exempt)
include h

theorem not_mem_of_tidy : ∀ l ∈ lines.map String.toList, '\n' ∉ l := by
  intro l hl hfeed
  obtain ⟨s, hs, rfl⟩ := List.mem_map.mp hl
  exact absurd ((h.sound s hs).spaces '\n' hfeed (by decide)) (by decide)

/-- The lines that show something are those of the blocks. -/
theorem shownLines_bodyText :
    shownLines (splitChars '\n' (bodyText lines)) = shownLines (lines.map String.toList) := by
  rw [bodyText, shownLines_limitBlankLines (by decide)]
  by_cases hnil : lines.map String.toList = []
  · rw [hnil]
    rfl
  · rw [splitChars_intercalate hnil (not_mem_of_tidy h)]

/-- A line of the body is blank or a line of a block. -/
theorem blank_or_mem_of_mem_lines {p : List Char} (hp : p ∈ splitChars '\n' (bodyText lines)) :
    isBlankChars p ∨ ∃ l ∈ lines, l.toList = p := by
  by_cases hblank : isBlankChars p
  · exact .inl hblank
  · have hshown : p ∈ shownLines (splitChars '\n' (bodyText lines)) :=
      List.mem_filter.mpr ⟨hp, by simp [hblank]⟩
    rw [shownLines_bodyText h] at hshown
    exact .inr (List.mem_map.mp (List.mem_filter.mp hshown).1)

/-- No value brings a line break in. -/
theorem eq_feed_of_mem_bodyText {c : Char} (hc : c ∈ bodyText lines) (hb : isLineBreak c) : c = '\n' := by
  rcases mem_of_mem_limitBlankLinesChars hc with hc | hc
  · exact hc
  · rcases eq_or_exists_of_mem_intercalate hc with hc | ⟨p, hp, hc⟩
    · exact hc
    · obtain ⟨l, hl, rfl⟩ := List.mem_map.mp hp
      rw [(h.sound l hl).spaces c hc (isBlank_of_isLineBreak hb)] at hb
      exact absurd hb (by decide)

/-- Every line of the body is balanced on its own. -/
theorem balanced_of_mem_lines {p : List Char} (hp : p ∈ splitChars '\n' (bodyText lines)) :
    Balanced p := by
  rcases blank_or_mem_of_mem_lines h hp with hblank | ⟨l, hl, rfl⟩
  · refine balanced_of_not_isGrouping fun c hc => ?_
    exact isGrouping_eq_false_of (isBlank ·) (List.all_eq_true.mp hblank c hc) (by decide)
  · exact (h.sound l hl).balanced

theorem balanced_bodyText : Balanced (bodyText lines) := by
  rw [← intercalate_splitChars '\n' (bodyText lines)]
  exact balanced_intercalate fun p hp => balanced_of_mem_lines h hp

/-- A text that does not show blanks only stands within one line. -/
theorem exists_line_of_eq_append {x before after : List Char} (hx : '\n' ∉ x)
    (hshown : ∃ c ∈ x, isBlank c = false) (heq : bodyText lines = before ++ x ++ after) :
    ∃ l ∈ lines, ∃ b a r, l.toList = b ++ x ++ a ∧ after = a ++ r := by
  obtain ⟨p, hp, b, a, r, hpx, hafter⟩ := exists_piece_of_eq_append hx heq
  rcases blank_or_mem_of_mem_lines h hp with hblank | ⟨l, hl, rfl⟩
  · obtain ⟨c, hc, hnot⟩ := hshown
    have hcp : c ∈ p := by rw [hpx]; simp [hc]
    rw [List.all_eq_true.mp hblank c hcp] at hnot
    exact absurd hnot (by decide)
  · exact ⟨l, hl, b, a, r, hpx, hafter⟩

theorem no_empty_argument_bodyText : ¬ "=\x7b\x7d".toList <:+: bodyText lines := by
  rintro ⟨before, after, heq⟩
  obtain ⟨l, hl, b, a, r, hline, -⟩ :=
    exists_line_of_eq_append h (by decide) ⟨'=', by decide, by decide⟩ heq.symm
  exact (h.sound l hl).no_empty_argument ⟨b, a, hline.symm⟩

theorem wellCalled_bodyText : WellCalled (bodyText lines) := by
  have hfeed : ∀ c ∈ keyedCommands, '\n' ∉ c.start := by decide
  intro c hc x y heq
  rw [← List.append_assoc] at heq
  obtain ⟨l, hl, b, a, r, hline, rfl⟩ :=
    exists_line_of_eq_append h (hfeed c hc) ⟨'\\', List.mem_cons_self, by decide⟩ heq
  rw [List.append_assoc] at hline
  obtain ⟨pairs, hpairs, hprefix⟩ := (h.sound l hl).wellCalled c hc b a hline
  refine ⟨pairs, hpairs, hprefix.trans ?_⟩
  rw [← List.append_assoc]
  exact List.prefix_append _ _

theorem nested_bodyText : Nested (marks (bodyText lines)) := by
  rw [← intercalate_splitChars '\n' (bodyText lines), marks_intercalate,
    ← flatMap_marks_shownLines, shownLines_bodyText h, flatMap_marks_shownLines, List.flatMap_map]
  exact h.nested

end lines

end Vitae.Layout
