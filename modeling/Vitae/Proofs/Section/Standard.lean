import Vitae.Layout
import Vitae.Proofs.Except
import Vitae.Proofs.Section.Blocks
import Vitae.Proofs.Text.Percent

/-!
# The sections of the standard layout are tidy

Each section of the standard layout, whatever it shows, is a tidy block: its commands are
called with keys that they take (`Candidates.Fit`), its environments are ended, and its
values are escaped.
-/

namespace Vitae.Section

open Text Latex Calendar

/-! ### The head -/

theorem fit_introductionArgs (p : Person) : (introductionArgs p).Fit .introduction :=
  .of_keys ["fullname", "email", "phone", "linkedin", "github"] rfl (by decide)

theorem tidy_contact (p : Person) : Tidy (contact p) := by
  have hbanner : Line [] (banner "Contact Information") := line_banner (by simp [bannerNames])
  unfold contact
  split
  · exact tidy_nil
  · rename_i call hcall
    have hline : Line [] ("" ++ call ++ "") :=
      line_of_command? (c := .introduction) (by simp [keyedCommands]) (fit_introductionArgs p) hcall
        (by simp) (by simp [lineEnds])
    rw [String.empty_append, String.append_empty] at hline
    exact .cons hbanner (.cons hline (.cons line_empty tidy_nil))

theorem tidy_summary (text : Option String) : Tidy (summary text) := by
  have hbanner : Line [] (banner "Summary") := line_banner (by simp [bannerNames])
  have hcommand : Firm fullWatch "\\summary" := firm_literal (by decide)
  unfold summary
  split
  · exact tidy_nil
  · have hline := line_of_clean (hcommand.argument (clean_escape? text))
    exact .cons hbanner (.cons hline (.cons line_empty tidy_nil))

/-! ### Education -/

theorem fit_studyArgs (s : Study) (dates : String) : (studyArgs s dates).Fit .educationItem :=
  .of_keys ["university", "college", "program", "graduation", "grade", "coursework"] rfl (by decide)

theorem line_of_studyLine? {today : Date} {s : Study} {l : String}
    (h : studyLine? today s = .ok (some l)) : Line [] l := by
  rw [studyLine?] at h
  obtain ⟨dates, -, h⟩ := exists_of_bind_eq_ok h
  obtain ⟨call, hcall, rfl⟩ := Option.map_eq_some_iff.mp (Except.ok.inj h)
  exact line_indented (c := .educationItem) (by simp [keyedCommands]) (fit_studyArgs s dates) hcall

/-- A text is put between lines. -/
theorem mem_of_mem_intersperse {α : Type} {sep x : α} {xs : List α} (h : x ∈ xs.intersperse sep) :
    x = sep ∨ x ∈ xs := by
  induction xs with
  | nil => exact .inr h
  | cons y ys ih =>
    cases ys with
    | nil => exact .inr h
    | cons z zs =>
      rw [List.intersperse_cons_cons, List.mem_cons, List.mem_cons] at h
      rcases h with rfl | rfl | h
      · exact .inr List.mem_cons_self
      · exact .inl rfl
      · exact (ih h).imp id (List.mem_cons_of_mem _)

theorem tidy_education {studies : List Study} {today : Date} {b : Block}
    (h : education studies today = .ok b) : Tidy b := by
  rw [education] at h
  obtain ⟨items, hitems, h⟩ := exists_of_bind_eq_ok h
  rw [← Except.ok.inj h]
  refine tidy_wrap (line_banner (by simp [bannerNames])) (by simp [environments]) ?_
  refine tidy_of_lines fun l hl => ?_
  rcases mem_of_mem_intersperse hl with rfl | hl
  · exact line_empty
  · obtain ⟨item, hitem, rfl⟩ := List.mem_filterMap.mp hl
    obtain ⟨s, -, hs⟩ := exists_of_mem_mapM hitems hitem
    exact line_of_studyLine? hs

/-! ### Groups -/

theorem line_of_groupCall? {group : String × List String} {call t : String}
    (h : groupCall? group = some call) (ht : t ∈ lineEnds) : Line [] (entryIndent ++ call ++ t) := by
  rw [groupCall?] at h
  split at h
  · exact absurd h (by simp)
  · exact line_of_command? (c := .skillItem) (by simp [keyedCommands])
      (.of_keys ["category", "skills"] rfl (by decide)) h (by simp) ht

theorem tidy_groupLines {calls : List String} (h : ∀ call ∈ calls, ∃ g, groupCall? g = some call) :
    Tidy (groupLines calls) := by
  induction calls with
  | nil => exact tidy_nil
  | cons call calls ih =>
    obtain ⟨g, hg⟩ := h call List.mem_cons_self
    cases calls with
    | nil =>
      have hline := line_of_groupCall? hg (t := "") (by decide)
      rw [String.append_empty] at hline
      exact .cons hline tidy_nil
    | cons call' calls =>
      have hline := line_of_groupCall? hg (t := " \\\\") (by decide)
      exact .cons hline (ih fun k hk => h k (List.mem_cons_of_mem _ hk))

theorem tidy_groupBlock (groups : Groups) : Tidy (groupBlock groups) := by
  refine tidy_groupLines fun call hcall => ?_
  obtain ⟨g, -, hg⟩ := List.mem_filterMap.mp hcall
  exact ⟨g, hg⟩

theorem tidy_skills (entries : List Skill) : Tidy (skills entries) :=
  tidy_wrap (line_banner (by simp [bannerNames])) (by simp [environments]) (tidy_groupBlock _)

theorem tidy_languages (entries : List Language) : Tidy (languages entries) :=
  tidy_wrap (line_banner (by simp [bannerNames])) (by simp [environments]) (tidy_groupBlock _)

theorem tidy_hobbies (entries : List Hobby) : Tidy (hobbies entries) := by
  unfold hobbies
  split
  · exact tidy_nil
  · exact tidy_wrap (line_banner (by simp [bannerNames])) (by simp [environments]) (tidy_groupBlock _)

/-! ### Work -/

theorem tidy_job (j : Job) : Tidy (job j) :=
  tidy_entry (c := .experienceItem) (by simp [keyedCommands])
    (.of_keys ["company", "location", "position", "duration"] rfl (by decide)) (tidy_bullets (by simp) _)

theorem tidy_experience (jobs : List Job) : Tidy (experience jobs) :=
  tidy_wrap (line_banner (by simp [bannerNames])) (by simp [environments])
    (tidy_flatMap fun j _ => tidy_job j)

theorem tidy_role (r : VolunteerRole) : Tidy (role r) := by
  have hgap : Clean fullWatch volunteerGap := clean_literal (by decide)
  unfold role
  split
  · exact tidy_entry (c := .experienceItem) (by simp [keyedCommands])
      (.of_keys ["company", "location", "position", "duration"] rfl (by decide))
      (tidy_bullets (by simpa using hgap) _)
  · exact tidy_nil

theorem tidy_volunteering (roles : List VolunteerRole) : Tidy (volunteering roles) := by
  unfold volunteering
  split
  · exact tidy_wrap (line_banner (by simp [bannerNames])) (by simp [environments])
      (tidy_flatMap fun r _ => tidy_role r)
  · exact tidy_nil

/-! ### Projects and what is shown like them -/

theorem tidy_projectSection {comment title : String} (hcomment : comment ∈ bannerNames)
    {α : Type} {xs : List α} {args : α → Candidates} {points : α → List (Option String)}
    (hargs : ∀ x, (args x).Fit .projectItem) :
    Tidy (projectSection comment title (xs.flatMap fun x => projectEntry (args x) (points x))) := by
  have hgap : Clean fullWatch projectGap := clean_literal (by decide)
  refine tidy_wrap (line_banner hcomment) (by simp [environments]) (tidy_flatMap fun x _ => ?_)
  exact tidy_entry (c := .projectItem) (by simp [keyedCommands]) (hargs x)
    (tidy_bullets (by simpa using hgap) _)

theorem tidy_projects (entries : List Project) : Tidy (projects entries) :=
  tidy_projectSection (by simp [bannerNames]) fun _ =>
    .of_keys ["title", "duration", "keyHighlight"] rfl (by decide)

theorem tidy_certificates (entries : List Certificate) : Tidy (certificates entries) :=
  tidy_projectSection (by simp [bannerNames]) fun _ =>
    .of_keys ["title", "duration", "keyHighlight"] rfl (by decide)

theorem tidy_publications (entries : List Publication) : Tidy (publications entries) :=
  tidy_projectSection (by simp [bannerNames]) fun _ =>
    .of_keys ["title", "duration", "keyHighlight"] rfl (by decide)

theorem tidy_awards (entries : List Award) : Tidy (awards entries) :=
  tidy_projectSection (by simp [bannerNames]) fun _ =>
    .of_keys ["title", "keyHighlight", "duration"] rfl (by decide)

theorem tidy_references (entries : List Referee) : Tidy (references entries) :=
  tidy_projectSection (by simp [bannerNames]) fun _ =>
    .of_keys ["title", "keyHighlight"] rfl (by decide)

/-! ### The end -/

theorem clean_extraTitle (s : ExtraSection) : Clean fullWatch (extraTitle s) := by
  unfold extraTitle
  split
  · exact clean_literal (by decide)
  · exact clean_escape? s.title

theorem tidy_extra (s : ExtraSection) : Tidy (extra s) := by
  have hindent : Clean fullWatch entryIndent := clean_literal (by decide)
  unfold extra
  split
  · exact tidy_nil
  · have henv : experienceSection ∈ environments := by simp [environments]
    have hopen := line_begin hindent henv (.inr ⟨_, "", rfl, (clean_extraTitle s).ending, clean_empty⟩)
    have hclose := line_end hindent henv
    have hbody : Tidy [entryIndent ++ escape? s.content] :=
      .cons (line_of_clean (hindent.append (clean_escape? s.content))) tidy_nil
    simpa [beginTitled] using (hbody.within hopen hclose).append (.cons line_empty tidy_nil)

theorem tidy_extras (entries : List ExtraSection) : Tidy (extras entries) := by
  have hbanner : Line [] (banner "Additional Sections") := line_banner (by simp [bannerNames])
  rw [extras]
  split
  · exact tidy_nil
  · have hbody : Tidy (entries.flatMap extra) := tidy_flatMap fun s _ => tidy_extra s
    simpa using Tidy.cons hbanner (hbody.append (.cons line_empty tidy_nil))

/-- A link target holds nothing that groups, and no blank. -/
theorem clean_linkTarget (s : String) : Clean (fullWatchWith reserved) (linkTarget s) := by
  refine clean_of_not_isGrouping (fun c hc => ?_) (fun c hc hb => ?_) fun c _ hreserved => hreserved
  · exact isGrouping_eq_false_of (isTargetChar ·) (isTargetChar_of_mem_linkTarget hc) (by decide)
  · rw [isBlank_eq_false_of_isTargetChar (isTargetChar_of_mem_linkTarget hc)] at hb
    exact absurd hb (by decide)

/-- The lines that center what is between them. -/
theorem tidy_center {exempt : List String} {b : Block} (hb : Tidy b exempt) :
    Tidy ("\\begin\x7bcenter\x7d" :: (b ++ ["\\end\x7bcenter\x7d"])) exempt := by
  have henv : "center" ∈ environments := by simp [environments]
  have hopen := line_begin clean_empty henv (.inl rfl)
  have hclose := line_end clean_empty henv
  simpa [braced, endEnvironment] using hb.within hopen hclose

/-- What the line with the address of the latest version begins with. -/
def linkStart : String :=
  "\\footnotesize \\color\x7bgray\x7d View the latest version of this resume at \\href"

/-- The line with the address of the latest version. -/
def linkLine (url : Option String) : String :=
  linkStart ++ braced (linkTarget (compactUrl url)) ++ braced (escape (compactUrl url))

set_option maxRecDepth 2000 in
theorem firm_linkStart : Firm fullWatch linkStart := by
  unfold linkStart
  exact firm_literal (by decide)

theorem clean_linkLine (url : Option String) : Clean (fullWatchWith reserved) (linkLine url) := by
  have hstart : Firm (fullWatchWith reserved) linkStart :=
    Firm.mono (W := fullWatch) (List.Subset.refl _) (List.nil_subset _) firm_linkStart
  exact (hstart.braced (clean_linkTarget (compactUrl url))).argument (clean_escape (compactUrl url))

/-- The footer, whose link may show what it likes in its target. -/
theorem tidy_footer (url : Option String) : Tidy (footer url) [linkLine url] := by
  have hbanner : Line [] (banner "Tracking Footer") := line_banner (by simp [bannerNames])
  have hfill : Firm fullWatch "\\vfill" := firm_literal (by decide)
  have hlink := clean_linkLine url
  have hline : Tidy [linkLine url] [linkLine url] :=
    .cons_of_guarded (sound_of_ending (callWatch_subset_with _) hlink.ending) (.inr List.mem_cons_self)
      (marks_of_closed (scopeWatch_subset_with _) hlink.toClosed) tidy_nil
  rw [footer]
  split
  · exact tidy_nil
  · exact .cons line_empty (.cons hbanner (.cons (line_of_ending hfill.ending) (tidy_center hline)))

end Vitae.Section

namespace Vitae.Layout

open Text Latex Calendar Section

set_option maxRecDepth 2000 in
theorem tidy_emptyNotice : Tidy emptyNotice := by
  have htitle : Clean fullWatch "  \\Large Resume Data Not Provided" := clean_literal (by decide)
  have hgap : Clean fullWatch "  \\\\ \\vspace\x7b1em\x7d" := clean_literal (by decide)
  have hhint : Clean fullWatch "  \\small Please fill in your details to generate a preview." :=
    clean_literal (by decide)
  have hbody : Tidy ["  \\Large Resume Data Not Provided", "  \\\\ \\vspace\x7b1em\x7d",
      "  \\small Please fill in your details to generate a preview."] :=
    .cons (line_of_clean htitle) (.cons (line_of_clean hgap) (.cons (line_of_clean hhint) tidy_nil))
  exact .cons (line_of_mem_comments List.mem_cons_self) (tidy_center hbody)

/-- All sections of the standard layout are tidy, but for the link in the footer. -/
theorem tidy_of_standardSections {r : Resume} {today : Date} {sections : List Block}
    (h : standardSections r today = .ok sections) :
    ∀ b ∈ sections, Tidy b [linkLine r.trackingUrl] := by
  rw [standardSections] at h
  obtain ⟨education, heducation, h⟩ := exists_of_bind_eq_ok h
  rw [← Except.ok.inj h]
  simp only [List.forall_mem_cons, List.not_mem_nil, false_implies, implies_true, and_true]
  exact ⟨(tidy_contact _).mono, (tidy_summary _).mono, (tidy_education heducation).mono, (tidy_skills _).mono,
    (tidy_experience _).mono, (tidy_projects _).mono, (tidy_certificates _).mono, (tidy_publications _).mono,
    (tidy_languages _).mono, (tidy_volunteering _).mono, (tidy_awards _).mono, (tidy_hobbies _).mono,
    (tidy_references _).mono, (tidy_extras _).mono, tidy_footer _⟩

/-- All blocks of the standard layout are tidy, but for the link in the footer. -/
theorem tidy_of_standardBlocks {r : Resume} {today : Date} {blocks : List Block}
    (h : standardBlocks r today = .ok blocks) :
    ∀ b ∈ blocks, Tidy b [linkLine r.trackingUrl] := by
  rw [standardBlocks] at h
  obtain ⟨sections, hsections, h⟩ := exists_of_bind_eq_ok h
  rw [← Except.ok.inj h]
  split
  · exact List.forall_mem_singleton.mpr tidy_emptyNotice.mono
  · exact tidy_of_standardSections hsections

end Vitae.Layout
