import Vitae.Proofs.Section.Line

/-!
# The building blocks are tidy

The blocks from which the sections of the standard layout are built: bullet lists,
entries, groups, and sections in an environment. Each is tidy when the blocks that it
holds are.
-/

namespace Vitae.Section

open Text Latex

/-! ### Lines that come up everywhere -/

/-- The comment over a section. -/
theorem line_banner {name : String} (h : name ∈ bannerNames) : Line [] (banner name) :=
  line_of_mem_comments (List.mem_cons_of_mem _ (List.mem_map_of_mem h))

/-- A line with a command, if there is one. -/
theorem line_of_command? {c : KeyedCommand} (hc : c ∈ keyedCommands) {args : Candidates}
    (hargs : args.Fit c) {call : String} (h : args.command? c.name = some call) {indent t : String}
    (hindent : indent ∈ ["", entryIndent]) (ht : t ∈ lineEnds) : Line [] (indent ++ call ++ t) := by
  obtain ⟨hcall, rfl⟩ := Candidates.isCall_of_command? hargs h
  exact line_of_isCall hc hcall hindent ht

/-- An indented line with a command. -/
theorem line_indented {c : KeyedCommand} (hc : c ∈ keyedCommands) {args : Candidates}
    (hargs : args.Fit c) {call : String} (h : args.command? c.name = some call) :
    Line [] (entryIndent ++ call) := by
  have hindent : entryIndent ∈ ["", entryIndent] := by simp
  have hend : "" ∈ lineEnds := by simp [lineEnds]
  have hline := line_of_command? hc hargs h hindent hend
  rwa [String.append_empty] at hline

/-! ### Lines of environments -/

/-- The environments of bodies. -/
def environments : List String :=
  [educationSection, skillsSection, experienceSection, "itemize", "center", "tabular*"]

theorem isName_of_mem_environments {environment : String} (h : environment ∈ environments) :
    isName environment.toList ∧ Clean callWatch environment := by
  have key : ∀ e ∈ environments, isName e.toList ∧ isClean callWatch e.toList := by decide
  exact ⟨(key _ h).1, clean_of_isClean (key _ h).2⟩

/-- The line that begins an environment, with an argument and more behind its name or nothing. -/
theorem line_begin {indent environment rest : String} (hindent : Clean fullWatch indent)
    (henv : environment ∈ environments)
    (hrest : rest = "" ∨ ∃ t more, rest = braced t ++ more ∧ Ending fullWatch t ∧ Clean fullWatch more) :
    Line [.opens (.environment environment.toList)]
      (indent ++ ("\\begin" ++ braced environment ++ rest)) := by
  obtain ⟨hname, hclean⟩ := isName_of_mem_environments henv
  have hbegin : Firm callWatch "\\begin" := firm_literal (by decide)
  have hline : Clean callWatch ("\\begin" ++ braced environment ++ rest) := by
    rcases hrest with rfl | ⟨t, more, rfl, ht, hmore⟩
    · rw [String.append_empty]
      exact hbegin.argument hclean
    · rw [← String.append_assoc]
      have hargument :=
        (hbegin.braced hclean).argument_of_ending (ht.mono callWatch_subset (List.Subset.refl _))
      exact hargument.append (hmore.mono callWatch_subset (List.Subset.refl _))
  have hmarks : marks rest.toList = [] := by
    rcases hrest with rfl | ⟨t, more, rfl, ht, hmore⟩
    · rfl
    · exact marks_of_closed scopeWatch_subset (ht.toClosed.group.append hmore.toClosed)
  refine line_of_marks hindent hline.ending ?_
  have hsplit : ("\\begin" ++ braced environment ++ rest).toList =
      "\\begin\x7b".toList ++ (environment.toList ++ '\x7d' :: rest.toList) := by simp
  rw [hsplit, marks_begin hname, hmarks]

/-- The line that ends an environment. -/
theorem line_end {indent environment : String} (hindent : Clean fullWatch indent)
    (henv : environment ∈ environments) :
    Line [.closes (.environment environment.toList)] (indent ++ endEnvironment environment) := by
  obtain ⟨hname, hclean⟩ := isName_of_mem_environments henv
  have hend : Firm callWatch "\\end" := firm_literal (by decide)
  refine line_of_marks hindent (hend.argument hclean).ending ?_
  have hsplit : (endEnvironment environment).toList =
      "\\end\x7b".toList ++ (environment.toList ++ '\x7d' :: []) := by simp [endEnvironment]
  rw [hsplit, marks_end hname]
  rfl

/-! ### Bullets and entries -/

theorem tidy_bullets {gap : Option String} (hgap : ∀ g ∈ gap, Clean fullWatch g)
    (texts : List (Option String)) : Tidy (bullets gap texts) := by
  have hindent : Clean fullWatch bulletIndent := clean_literal (by decide)
  have hitem : Clean fullWatch "\\item " := clean_literal (by decide)
  have hsep : Clean fullWatch "\\itemsep -6pt \x7b\x7d" := clean_literal (by decide)
  have hentry : Clean fullWatch entryIndent := clean_literal (by decide)
  have henv : "itemize" ∈ environments := by simp [environments]
  have hopen := line_begin hentry henv (.inl rfl)
  have hclose := line_end hentry henv
  have hgap' : Tidy ((gap.filter (· ≠ "")).map (bulletIndent ++ ·)).toList := by
    refine tidy_of_lines fun l hl => ?_
    obtain ⟨g, hg, rfl⟩ := Option.map_eq_some_iff.mp (Option.mem_toList.mp hl)
    exact line_of_clean (hindent.append (hgap g (Option.eq_some_of_filter_eq_some hg)))
  have hitems : ∀ items : List String, (∀ s ∈ items, ∃ value, s = escape? value) →
      Tidy (items.map (bulletIndent ++ "\\item " ++ ·)) := by
    refine fun items h => tidy_of_lines fun l hl => ?_
    obtain ⟨s, hs, rfl⟩ := List.mem_map.mp hl
    obtain ⟨value, rfl⟩ := h s hs
    exact line_of_clean ((hindent.append hitem).append (clean_escape? value))
  rw [bullets]
  split
  · exact tidy_nil
  · have hshown : ∀ s ∈ (texts.map escape?).filter (· ≠ ""), ∃ value, s = escape? value := by
      intro s hs
      obtain ⟨value, -, hvalue⟩ := List.mem_map.mp (List.mem_filter.mp hs).1
      exact ⟨value, hvalue.symm⟩
    have hbody := hgap'.append (.cons (line_of_clean (hindent.append hsep)) (hitems _ hshown))
    simpa [braced, endEnvironment] using hbody.within hopen hclose

theorem tidy_entry {c : KeyedCommand} (hc : c ∈ keyedCommands) {args : Candidates}
    (hargs : args.Fit c) {points : Block} (hpoints : Tidy points) : Tidy (entry c.name args points) := by
  rw [entry]
  split
  · exact tidy_nil
  · rename_i call hcall
    exact .cons (line_indented hc hargs hcall) (hpoints.append (.cons line_empty tidy_nil))

/-! ### Sections in an environment -/

theorem tidy_wrap {comment environment title : String} {body : Block} (hcomment : Line [] comment)
    (henv : environment ∈ environments) (hbody : Tidy body) :
    Tidy (wrap comment environment title body) := by
  rw [wrap]
  split
  · exact tidy_nil
  · have hopen := line_begin clean_empty henv
      (.inr ⟨escape title, "", rfl, (clean_escape title).ending, clean_empty⟩)
    have hclose := line_end clean_empty henv
    rw [String.empty_append] at hopen hclose
    have hlines := (hbody.within hopen hclose).append (.cons line_empty tidy_nil)
    simpa [beginTitled] using Tidy.cons hcomment hlines

end Vitae.Section
