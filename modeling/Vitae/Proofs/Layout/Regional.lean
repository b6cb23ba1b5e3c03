import Vitae.Layout.Regional
import Vitae.Proofs.Section.Blocks

/-!
# The regional layout is tidy

The commands of the regional layout take their arguments by position, so an argument may
be empty; no keyed command is called at all. Its lists and the table at its head are ended
where they are begun.
-/

namespace Vitae.Regional

open Text Latex Calendar Section

/-! ### Building blocks -/

theorem tidy_subheading {a b c d : String} (ha : Clean fullWatch a) (hb : Clean fullWatch b)
    (hc : Clean fullWatch c) (hd : Clean fullWatch d) : Tidy (subheading a b c d) := by
  have hcommand : Firm fullWatch "    \\resumeSubheading" := firm_literal (by decide)
  have hindent : Firm fullWatch "      " := firm_literal (by decide)
  have htop := line_of_clean ((hindent.braced ha).argument hb)
  have hbottom := line_of_clean ((hindent.braced hc).argument hd)
  exact .cons (line_of_ending hcommand.ending) (.cons htop (.cons hbottom tidy_nil))

theorem line_subItem (label : String) (value : Option String) : Line [] (subItem label value) := by
  have hcommand : Firm fullWatch "    \\resumeSubItem" := firm_literal (by decide)
  exact line_of_clean ((hcommand.braced (clean_escape label)).argument (clean_escape? value))

/-- A block between the lines that begin and end a list. -/
theorem tidy_list {indent first last : String} {s : Scope} (hindent : Clean fullWatch indent)
    (hfirst : Firm callWatch first) (hopens : (first.toList, fun _ => .opens s) ∈ markers)
    (hlast : Firm callWatch last) (hcloses : (last.toList, fun _ => .closes s) ∈ markers)
    {b : Block} (hb : Tidy b) : Tidy ((indent ++ first) :: (b ++ [indent ++ last])) := by
  have hopen : marks first.toList = [.opens s] := by simpa [marks] using marks_command hopens []
  have hclose : marks last.toList = [.closes s] := by simpa [marks] using marks_command hcloses []
  exact hb.within (line_of_marks hindent hfirst.ending hopen) (line_of_marks hindent hlast.ending hclose)

set_option maxRecDepth 2000 in
/-- The lines of the table at the head around what is in it. -/
theorem tidy_table {exempt : List String} {b : Block} (hb : Tidy b exempt) :
    Tidy ("\\begin\x7btabular*\x7d\x7b\\textwidth\x7d\x7bl@\x7b\\extracolsep\x7b\\fill\x7d\x7dr\x7d" ::
      (b ++ ["\\end\x7btabular*\x7d"])) exempt := by
  have henv : "tabular*" ∈ environments := by simp [environments]
  have hwidth : Firm fullWatch "\\textwidth" := firm_literal (by decide)
  have hcolumns : Clean fullWatch "\x7bl@\x7b\\extracolsep\x7b\\fill\x7d\x7dr\x7d" := clean_literal (by decide)
  have hopen := line_begin clean_empty henv (.inr ⟨_, _, rfl, hwidth.ending, hcolumns⟩)
  have hclose := line_end clean_empty henv
  simpa [braced, endEnvironment] using hb.within hopen hclose

set_option maxRecDepth 2000 in
theorem tidy_itemList {items : List String} (h : ∀ item ∈ items, Clean fullWatch item) :
    Tidy (itemList items) := by
  have hcommand : Firm fullWatch "        \\resumeItemWithoutTitle" := firm_literal (by decide)
  rw [itemList]
  split
  · exact tidy_nil
  · have hitems : Tidy (items.map fun item => "        \\resumeItemWithoutTitle" ++ braced item) := by
      refine tidy_of_lines fun l hl => ?_
      obtain ⟨item, hitem, rfl⟩ := List.mem_map.mp hl
      exact line_of_clean (hcommand.argument (h item hitem))
    have hindent : Clean fullWatch "      " := clean_literal (by decide)
    have hfirst : Firm callWatch "\\resumeItemListStart" := firm_literal (by decide)
    have hlast : Firm callWatch "\\resumeItemListEnd" := firm_literal (by decide)
    simpa using tidy_list hindent hfirst (List.mem_of_getElem? (i := 4) rfl) hlast
      (List.mem_of_getElem? (i := 5) rfl) hitems

set_option maxRecDepth 2000 in
theorem tidy_listSection {title : String} {body : Block} (htitle : Clean fullWatch title)
    (hbody : Tidy body) : Tidy (listSection title body) := by
  have hcommand : Firm fullWatch "\\section" := firm_literal (by decide)
  rw [listSection]
  split
  · exact tidy_nil
  · have hindent : Clean fullWatch "  " := clean_literal (by decide)
    have hfirst : Firm callWatch "\\resumeSubHeadingListStart" := firm_literal (by decide)
    have hlast : Firm callWatch "\\resumeSubHeadingListEnd" := firm_literal (by decide)
    have hlist := tidy_list hindent hfirst (List.mem_of_getElem? (i := 2) rfl) hlast
      (List.mem_of_getElem? (i := 3) rfl) hbody
    have htitle := line_of_clean (hcommand.argument htitle)
    simpa using Tidy.cons htitle (hlist.append (.cons line_empty tidy_nil))

/-! ### The sections -/

/-- The name in large type, in a group of its own. -/
theorem clean_large {W : Watch} {s : String} (hlarge : Clean W "\\LARGE ") (h : Clean W s) :
    Clean W ("\x7b\\LARGE " ++ s ++ "\x7d") := by
  have hfilled : Filled "\\LARGE ".toList := by decide
  have hgroup : "\x7b\\LARGE " ++ s ++ "\x7d" = braced ("\\LARGE " ++ s) := by
    simp [braced, ← String.append_assoc]
  rw [hgroup]
  refine (hlarge.append h).braced_of_filled ?_
  rw [String.toList_append]
  exact hfilled.append h.calm

/-- The rows of the table at the head. -/
def headerRows (r : Resume) : List String := ((header r).drop 1).take 3

/-- The labels in these rows, behind the separator of columns. -/
def rowLabels : List String := [" & Email: ", " & Mobile: ", " & ID: "]

/-- A row of the table at the head. -/
structure IsRow (l : String) : Prop extends Sound l where
  /-- Nothing is begun or ended in it. -/
  marks_eq : marks l.toList = []
  /-- It shows no reserved character bare but the separator of columns. -/
  separated : isCoded ['&'] true false l.toList
  /-- It shows the separator once. -/
  single : countBare '&' false l.toList = 1

theorem isRow_append {cell label : String} (hcell : Clean fullWatch cell) (hlabel : label ∈ rowLabels)
    (value : Option String) {t : String} (ht : t ∈ lineEnds) :
    IsRow (cell ++ label ++ escape? value ++ t) := by
  have hlabels : ∀ label ∈ rowLabels, isClean (fullWatchWith ['&']) label.toList ∧
      countBare '&' false label.toList = 1 := by
    decide
  obtain ⟨hclean, hsingle⟩ := hlabels label hlabel
  have hclean : Clean (fullWatchWith ['&']) label := clean_of_isClean hclean
  have hno : ∀ {s : String}, Clean fullWatch s → countBare '&' false s.toList = 0 := fun h =>
    countBare_eq_zero h.coded (by decide) List.not_mem_nil
  have hend : isCoded [] true false t.toList := coded_lineEnd ht
  have hend := countBare_eq_zero (c := '&') hend (by decide) List.not_mem_nil
  have hrow := ((clean_with hcell ['&']).append hclean).append (clean_escape? value)
  refine ⟨sound_of_clean (callWatch_subset_with _) hrow ht, marks_append_lineEnd (scopeWatch_subset_with _) hrow ht,
    coded_append hrow ht, ?_⟩
  simp only [String.toList_append, countBare_append, endsOdd_append, hcell.even,
    hclean.even, (clean_escape? (W := fullWatch) value).even, hno hcell, hsingle,
    hno (clean_escape? value), hend]

theorem isRow_of_mem_headerRows {r : Resume} {l : String} (h : l ∈ headerRows r) : IsRow l := by
  have hname : Firm fullWatch "  \\textbf" := firm_literal (by decide)
  have hlarge : Clean fullWatch "\\LARGE " := clean_literal (by decide)
  have hindent : Clean fullWatch "  " := clean_literal (by decide)
  have hlarge := hname.argument (clean_large hlarge (clean_escape (fullName r)))
  have key : ∀ l ∈ headerRows r, IsRow l := by
    simp only [headerRows, header, List.drop_succ_cons, List.drop_zero, List.take_succ_cons, List.take_zero,
      List.forall_mem_cons, List.not_mem_nil, false_implies, implies_true, and_true]
    refine ⟨isRow_append hlarge ?_ _ ?_, isRow_append (hindent.append (clean_escape _)) ?_ _ ?_,
      isRow_append (hindent.append (clean_escape _)) ?_ _ ?_⟩ <;> simp [rowLabels, lineEnds]
  exact key l h

/-- The table at the head, whose rows show a separator of columns. -/
theorem tidy_header (r : Resume) : Tidy (header r) (headerRows r) := by
  have hrows : ∀ ls, ls ⊆ headerRows r → Tidy ls (headerRows r) := by
    intro ls
    induction ls with
    | nil => exact fun _ => tidy_nil
    | cons l ls ih =>
      intro h
      obtain ⟨hl, hls⟩ := List.cons_subset.mp h
      have hrow := isRow_of_mem_headerRows hl
      exact .cons_of_guarded hrow.toSound (.inr hl) hrow.marks_eq (ih hls)
  exact (tidy_table (hrows _ (List.Subset.refl _))).append (.cons line_empty tidy_nil)

theorem clean_studyDetails (s : Study) : ∀ item ∈ studyDetails s, Clean fullWatch item := by
  have hfield : Clean fullWatch "\\textbf\x7bField:\x7d " := clean_literal (by decide)
  have hsubjects : Clean fullWatch "\\textbf\x7bSubjects:\x7d " := clean_literal (by decide)
  intro item hitem
  rw [studyDetails, List.mem_append] at hitem
  rcases hitem with hitem | hitem
  · split at hitem
    · rw [List.mem_singleton.mp hitem]
      exact hfield.append (clean_escape? _)
    · exact absurd hitem List.not_mem_nil
  · split at hitem
    · rw [List.mem_singleton.mp hitem]
      exact hsubjects.append (clean_escape _)
    · exact absurd hitem List.not_mem_nil

theorem tidy_study (s : Study) : Tidy (study s) := by
  have hcomma : Clean fullWatch ", " := clean_literal (by decide)
  refine (tidy_subheading (clean_escape? _) (clean_escape? _) (clean_escape? _) (clean_escape _)).append ?_
  refine tidy_itemList fun item hitem => ?_
  split at hitem
  · exact absurd hitem List.not_mem_nil
  · rw [List.mem_singleton.mp hitem]
    exact hcomma.intercalate (clean_studyDetails s)

theorem tidy_education (r : Resume) : Tidy (education r) :=
  tidy_listSection (clean_literal (by decide)) (tidy_flatMap fun s _ => tidy_study s)

theorem tidy_skills (r : Resume) : Tidy (skills r) := by
  refine tidy_listSection (clean_literal (by decide)) (.append ?_ ?_)
  · refine tidy_of_lines fun l hl => ?_
    obtain ⟨g, -, rfl⟩ := List.mem_map.mp hl
    exact line_subItem _ _
  · split
    · exact .cons (line_subItem _ _) tidy_nil
    · exact tidy_nil

theorem tidy_job (j : Job) : Tidy (job j) := by
  refine (tidy_subheading (clean_escape? _) (clean_escape? _) (clean_escape? _) (clean_escape _)).append ?_
  refine tidy_itemList fun item hitem => ?_
  obtain ⟨line, -, rfl⟩ := List.mem_map.mp (List.mem_filter.mp hitem).1
  exact clean_escape line

theorem tidy_experience (r : Resume) : Tidy (experience r) :=
  tidy_listSection (clean_literal (by decide)) (tidy_flatMap fun j _ => tidy_job j)

theorem tidy_personalInformation (r : Resume) : Tidy (personalInformation r) := by
  refine tidy_listSection (clean_literal (by decide)) (tidy_of_lines fun l hl => ?_)
  obtain ⟨f, -, rfl⟩ := List.mem_map.mp hl
  exact line_subItem _ _

theorem tidy_referee (r : Referee) : Tidy (referee r) := by
  have hdash : Clean fullWatch " - " := clean_literal (by decide)
  have hcontact : Clean fullWatch "Contact: " := clean_literal (by decide)
  have hunavailable : Clean fullWatch unavailable := clean_literal (by decide)
  rw [referee]
  split
  · exact tidy_subheading (((clean_escape? _).append hdash).append (clean_escape? _)) (clean_escape? _)
      (hcontact.append (clean_escape? _)) hunavailable
  · exact tidy_nil

theorem tidy_references (r : Resume) : Tidy (references r) :=
  tidy_listSection (clean_literal (by decide)) (tidy_flatMap fun p _ => tidy_referee p)

set_option maxRecDepth 2000 in
theorem tidy_declaration (r : Resume) : Tidy (declaration r) := by
  have htitle : Clean fullWatch "\\section\x7bDeclaration\x7d" := clean_literal (by decide)
  have hcommand : Firm fullWatch "\\small" := firm_literal (by decide)
  have hfirst : Clean fullWatch "I, " := clean_literal (by decide)
  have hsecond : Clean fullWatch ", hereby declare that the above information is true " :=
    clean_literal (by decide)
  have hthird : Clean fullWatch "and correct to the best of my knowledge." := clean_literal (by decide)
  rw [declaration]
  split
  · exact tidy_nil
  · have hline := line_of_clean
      (hcommand.argument (((hfirst.append (clean_escape (fullName r))).append hsecond).append hthird))
    exact .cons (line_of_clean htitle) (.cons hline tidy_nil)

/-- All blocks of the regional layout are tidy, but for the rows at the head. -/
theorem tidy_of_mem_blocks {r : Resume} {b : Block} (hb : b ∈ blocks r) : Tidy b (headerRows r) := by
  have key : ∀ b ∈ blocks r, Tidy b (headerRows r) := by
    simp only [blocks, List.forall_mem_cons, List.not_mem_nil, false_implies, implies_true, and_true]
    exact ⟨tidy_header r, (tidy_education r).mono, (tidy_skills r).mono, (tidy_experience r).mono,
      (tidy_personalInformation r).mono, (tidy_references r).mono, (tidy_declaration r).mono⟩
  exact key b hb

end Vitae.Regional
