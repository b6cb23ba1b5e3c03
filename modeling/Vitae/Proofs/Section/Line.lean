import Vitae.Proofs.Latex.Calls

/-!
# Lines of a document

Whatever a résumé holds, each line of its document is sound: a single line whose braces
are balanced, without an empty argument, with the keyed commands only in well-formed
calls, and with backslashes only where commands and escape sequences begin. It is guarded
too, which is to say that it is a comment or shows no reserved character bare. A block is
tidy when its lines are sound and guarded, but for those that are named as exempt, and
what its lines begin and end is nested.

The lines of sections are of four kinds, each with its lemma: clean text (`line_of_ending`),
a comment (`line_of_mem_comments`), a call of a keyed command (`line_of_isCall`), and a text
that begins or ends something (`line_of_marks`).
-/

namespace Vitae.Section

open Text Latex

/-- What the comments over sections name. -/
def bannerNames : List String :=
  ["Contact Information", "Summary", "Education", "Skills", "Experience", "Projects", "Certifications",
   "Publications", "Languages", "Other work experience", "Activities", "Hobbies", "References",
   "Additional Sections", "Tracking Footer"]

/-- The comment of a body that shows nothing. -/
def blankComment : String := "% (intentionally left blank, no resume fields provided)"

/-- The comments of bodies. -/
def comments : List String := blankComment :: bannerNames.map banner

/-- A line in which no reserved character is bare, or a comment. -/
def Guarded (l : String) : Prop := isCoded [] true false l.toList ∨ l ∈ comments

/-- A line that keeps to itself. -/
structure Sound (l : String) : Prop where
  /-- The only blank is the space. -/
  spaces : ∀ c ∈ l.toList, isBlank c → c = ' '
  /-- All groups are closed. -/
  balanced : Balanced l.toList
  /-- No argument is empty. -/
  no_empty_argument : ¬ "=\x7b\x7d".toList <:+: l.toList
  /-- The keyed commands are called well. -/
  wellCalled : WellCalled l.toList
  /-- Its backslashes begin commands and escape sequences. -/
  coded : isCoded reserved true false l.toList

/-- A sound and guarded line with its marks. -/
structure Line (ms : List Mark) (l : String) : Prop extends Sound l where
  /-- It shows no reserved character bare, unless it is a comment. -/
  guarded : Guarded l
  /-- What it begins and ends. -/
  marks_eq : marks l.toList = ms

/-- Sound lines that end what they begin, and are guarded but for the exempt ones. -/
structure Tidy (b : Block) (exempt : List String := []) : Prop where
  /-- All lines are sound. -/
  sound : ∀ l ∈ b, Sound l
  /-- All lines are guarded, or exempt from that. -/
  guarded : ∀ l ∈ b, Guarded l ∨ l ∈ exempt
  /-- What is begun is ended. -/
  nested : Nested (b.flatMap fun l => marks l.toList)

/-- All is watched, and the given reserved characters may be bare. -/
def fullWatchWith (bare : List Char) : Watch := { fullWatch with bare }

theorem callWatch_subset_with (bare : List Char) : callWatch.stems ⊆ (fullWatchWith bare).stems :=
  callWatch_subset

theorem scopeWatch_subset_with (bare : List Char) : scopeWatch.stems ⊆ (fullWatchWith bare).stems :=
  scopeWatch_subset

theorem clean_with {s : String} (h : Clean fullWatch s) (bare : List Char) : Clean (fullWatchWith bare) s :=
  Clean.mono (W := fullWatch) (List.Subset.refl _) (List.nil_subset _) h

/-- The texts with which lines end: nothing, or a line break of LaTeX. -/
def lineEnds : List String := ["", "\\\\", " \\\\"]

theorem coded_lineEnd {bare : List Char} {t : String} (ht : t ∈ lineEnds) :
    isCoded bare true false t.toList := by
  have hend : ∀ t ∈ lineEnds, isCoded [] true false t.toList := by decide
  exact isCoded_mono (List.nil_subset _) (hend t ht)

theorem marks_lineEnd {t : String} (ht : t ∈ lineEnds) : marks t.toList = [] := by
  have hend : ∀ t ∈ lineEnds, marks t.toList = [] := by decide
  exact hend t ht

section

variable {W : Watch} {s t : String}

theorem coded_append (h : Clean W s) (ht : t ∈ lineEnds) : isCoded W.bare true false (s ++ t).toList := by
  rw [String.toList_append]
  refine isCoded_append h.coded ?_ (.inl rfl)
  rw [h.even]
  exact coded_lineEnd ht

/-- Clean text at the end of a line is sound if the keyed commands are called well. -/
theorem sound_append (h : Clean W s) (ht : t ∈ lineEnds) (hcalls : WellCalled (s ++ t).toList) :
    Sound (s ++ t) := by
  have hend : ∀ t ∈ lineEnds, isSpaced t.toList ∧ closesAll false 0 t.toList ∧ Calm t.toList := by
    decide
  obtain ⟨hspaced, hcloses, hcalm⟩ := hend t ht
  have hbalanced := (balanced_of_closesAll hcloses).1
  refine ⟨?_, ?_, ?_, hcalls, isCoded_reserved (coded_append h ht)⟩
  · intro c hc
    rw [String.toList_append, List.mem_append] at hc
    exact hc.elim (h.spaces c) (eq_space_of_isSpaced hspaced c)
  · rw [String.toList_append]
    exact h.balanced.append h.even hbalanced
  · rw [String.toList_append]
    exact (h.calm.append hcalm).no_empty_argument

/-- Clean text at the end of a line, in which no keyed command is called. -/
theorem sound_of_clean (hW : callWatch.stems ⊆ W.stems) (h : Clean W s) (ht : t ∈ lineEnds) :
    Sound (s ++ t) := by
  have hend : ∀ t ∈ lineEnds, ∀ c ∈ keyedCommands, ¬ c.start <:+: t.toList := by decide
  refine sound_append h ht ?_
  rw [String.toList_append]
  exact wellCalled_append (fun n hn => h.nowhere n (hW hn)) (hend t ht)

/-- A whole line in which no keyed command is called. -/
theorem sound_of_ending (hW : callWatch.stems ⊆ W.stems) (h : Ending W s) : Sound s := by
  have hend : ∀ c ∈ keyedCommands, ¬ c.start <:+: [] := by decide
  refine ⟨h.spaces, h.balanced, h.calm.no_empty_argument, ?_, isCoded_reserved h.coded⟩
  simpa using wellCalled_append (fun n hn => h.nowhere n (hW hn)) hend

/-- Text in which nothing is begun or ended, at the end of a line. -/
theorem marks_append_lineEnd (hW : scopeWatch.stems ⊆ W.stems) (h : Clean W s) (ht : t ∈ lineEnds) :
    marks (s ++ t).toList = [] := by
  rw [String.toList_append, marks_append_of_clean hW h.toClosed, marks_lineEnd ht]

theorem marks_of_closed (hW : scopeWatch.stems ⊆ W.stems) (h : Closed W s) : marks s.toList = [] := by
  simpa [marks] using marks_append_of_clean hW h []

end

theorem line_of_ending {s : String} (h : Ending fullWatch s) : Line [] s where
  toSound := sound_of_ending callWatch_subset h
  guarded := .inl h.coded
  marks_eq := marks_of_closed scopeWatch_subset h.toClosed

theorem line_of_clean {s : String} (h : Clean fullWatch s) : Line [] s := line_of_ending h.ending

theorem line_empty : Line [] "" := line_of_clean clean_empty

set_option maxRecDepth 2000 in
/-- Comments show nothing reserved behind their percent sign. -/
theorem exists_of_mem_comments {l : String} (h : l ∈ comments) :
    ∃ rest, l = "%" ++ rest ∧ Clean fullWatch rest := by
  have hblank : Clean fullWatch " (intentionally left blank, no resume fields provided)" :=
    clean_literal (by decide)
  have hopen : Clean fullWatch " --------- " := clean_literal (by decide)
  have hclose : Clean fullWatch " -----------" := clean_literal (by decide)
  have hnames : ∀ name ∈ bannerNames, Clean fullWatch name := by
    simp only [bannerNames, List.forall_mem_cons, List.not_mem_nil, false_implies, implies_true, and_true]
    and_intros <;> exact clean_literal (by decide)
  rcases List.mem_cons.mp h with rfl | h
  · exact ⟨_, rfl, hblank⟩
  · obtain ⟨name, hname, rfl⟩ := List.mem_map.mp h
    refine ⟨_, ?_, (hopen.append (hnames name hname)).append hclose⟩
    rw [banner, ← String.append_assoc, ← String.append_assoc]
    rfl

theorem line_of_mem_comments {l : String} (h : l ∈ comments) : Line [] l := by
  have hpercent : Clean (fullWatchWith ['%']) "%" := clean_literal (by decide)
  obtain ⟨rest, hrest, hclean⟩ := exists_of_mem_comments h
  have hclean := hpercent.append (clean_with hclean ['%'])
  rw [← hrest] at hclean
  exact ⟨sound_of_ending (callWatch_subset_with _) hclean.ending, .inr h,
    marks_of_closed (scopeWatch_subset_with _) hclean.toClosed⟩

/-- A line that calls a keyed command. -/
theorem line_of_isCall {indent t : String} {c : KeyedCommand} (hc : c ∈ keyedCommands)
    {pairs : List (String × String)} (h : IsCall c pairs) (hindent : indent ∈ ["", entryIndent])
    (ht : t ∈ lineEnds) : Line [] (indent ++ callText c.name pairs ++ t) := by
  have hclean : ∀ indent ∈ ["", entryIndent],
      isClean scopeWatch indent.toList ∧ '\\' ∉ indent.toList := by decide
  have hend : ∀ t ∈ lineEnds, ∀ c ∈ keyedCommands, ¬ c.start <:+: ']' :: t.toList := by decide
  have hcall := (clean_of_isClean (hclean indent hindent).1).append (clean_callText hc h)
  refine ⟨sound_append hcall ht ?_, .inl (coded_append hcall ht), ?_⟩
  · rw [String.toList_append, String.toList_append, List.append_assoc]
    exact wellCalled_callText hc h (hclean indent hindent).2 (hend t ht)
  · exact marks_append_lineEnd (List.Subset.refl _) hcall ht

/-- A line that begins or ends something, with no keyed command. -/
theorem line_of_marks {ms : List Mark} {indent l : String} (hindent : Clean fullWatch indent)
    (h : Ending callWatch l) (hms : marks l.toList = ms) : Line ms (indent ++ l) := by
  have hline := (hindent.mono callWatch_subset (List.Subset.refl _)).append_ending h
  refine ⟨sound_of_ending (List.Subset.refl _) hline, .inl hline.coded, ?_⟩
  rw [String.toList_append, marks_append_of_clean scopeWatch_subset hindent.toClosed, hms]

/-! ### Blocks -/

variable {exempt : List String}

theorem tidy_nil : Tidy [] exempt := ⟨by simp, by simp, .nil⟩

/-- More lines may be exempt. -/
theorem Tidy.mono {b : Block} (h : Tidy b) : Tidy b exempt :=
  { h with guarded := fun l hl => (h.guarded l hl).imp_right fun hno => absurd hno List.not_mem_nil }

theorem Tidy.append {a b : Block} (ha : Tidy a exempt) (hb : Tidy b exempt) : Tidy (a ++ b) exempt where
  sound := by
    intro l hl
    exact (List.mem_append.mp hl).elim (ha.sound l) (hb.sound l)
  guarded := by
    intro l hl
    exact (List.mem_append.mp hl).elim (ha.guarded l) (hb.guarded l)
  nested := by
    rw [List.flatMap_append]
    exact ha.nested.append hb.nested

/-- A line without marks, which may be exempt, in front of a block. -/
theorem Tidy.cons_of_guarded {l : String} {b : Block} (hl : Sound l) (hguarded : Guarded l ∨ l ∈ exempt)
    (hmarks : marks l.toList = []) (hb : Tidy b exempt) : Tidy (l :: b) exempt where
  sound := List.forall_mem_cons.mpr ⟨hl, hb.sound⟩
  guarded := List.forall_mem_cons.mpr ⟨hguarded, hb.guarded⟩
  nested := by
    rw [List.flatMap_cons, hmarks]
    exact hb.nested

theorem Tidy.cons {l : String} {b : Block} (hl : Line [] l) (hb : Tidy b exempt) : Tidy (l :: b) exempt :=
  .cons_of_guarded hl.toSound (.inl hl.guarded) hl.marks_eq hb

theorem tidy_of_lines {b : Block} (h : ∀ l ∈ b, Line [] l) : Tidy b exempt := by
  induction b with
  | nil => exact tidy_nil
  | cons l b ih => exact .cons (h l List.mem_cons_self) (ih fun k hk => h k (List.mem_cons_of_mem _ hk))

theorem tidy_flatMap {α : Type} {f : α → Block} {xs : List α} (h : ∀ x ∈ xs, Tidy (f x) exempt) :
    Tidy (xs.flatMap f) exempt := by
  induction xs with
  | nil => exact tidy_nil
  | cons x xs ih =>
    rw [List.flatMap_cons]
    exact (h x List.mem_cons_self).append (ih fun y hy => h y (List.mem_cons_of_mem _ hy))

/-- A block between the lines that begin and end something. -/
theorem Tidy.within {s : Scope} {o c : String} {b : Block} (ho : Line [.opens s] o) (hb : Tidy b exempt)
    (hc : Line [.closes s] c) : Tidy (o :: (b ++ [c])) exempt where
  sound := by
    intro l hl
    rw [List.mem_cons, List.mem_append, List.mem_singleton] at hl
    rcases hl with rfl | hl | rfl
    · exact ho.toSound
    · exact hb.sound l hl
    · exact hc.toSound
  guarded := by
    intro l hl
    rw [List.mem_cons, List.mem_append, List.mem_singleton] at hl
    rcases hl with rfl | hl | rfl
    · exact .inl ho.guarded
    · exact hb.guarded l hl
    · exact .inl hc.guarded
  nested := by
    rw [List.flatMap_cons, List.flatMap_append, List.flatMap_singleton, ho.marks_eq, hc.marks_eq]
    exact hb.nested.within s

end Vitae.Section
