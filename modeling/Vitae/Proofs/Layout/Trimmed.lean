import Vitae.Proofs.Section.Trimmed

/-!
# Layouts do not see outer blanks

Both layouts draw the same blocks for a résumé and for its trimmed form
(`blocks_trimmed`). The regional layout cuts addresses and responsibilities into lines;
outer blanks of the whole add no line that shows something.
-/

namespace Vitae.Regional

open Text Latex Calendar Section

/-! ### Values -/

theorem escape?_orElse_trimmed? (value : Option String) (wording : String) :
    escape? (orElse (trimmed? value) wording) = escape? (orElse value wording) := by
  rw [orElse, isVisible_trimmed?, apply_ite escape?, escape?_trimmed?, orElse, apply_ite escape?]

theorem escape?_contactOf_trimmed (r : Referee) :
    escape? (contactOf (Entry.trimmed r)) = escape? (contactOf r) := by
  simp [contactOf, Entry.trimmed_referee, apply_ite escape?, escape?_orElse_trimmed?]

@[simp] theorem subItem_trimmed? (label : String) (value : Option String) :
    subItem label (trimmed? value) = subItem label value := by
  unfold subItem
  rw [escape?_trimmed?]

/-! ### The head and the end -/

theorem fullName_trimmed (r : Resume) : fullName r.trimmed = fullName r := by
  simp [fullName, Resume.trimmed, Entry.trimmed_person, trimJoin_eq, List.filterMap_cons]

/-- Of an address the lines are shown that show something. -/
theorem addressLines_trimmed (p : Person) : addressLines (Entry.trimmed p) = addressLines p := by
  have hlines : ∀ value : Option String, trimmedLines (lines ((trimmed? value).getD "")) =
      trimmedLines (lines (value.getD "")) :=
    apply_trimmed? (f := fun v => trimmedLines (lines (v.getD ""))) trimmedLines_lines_trim rfl
  change trimmedLines _ = trimmedLines _
  rw [Entry.trimmed_person]
  simp only [isVisible_trimmed?]
  split
  · exact hlines p.residentialAddress
  · exact hlines p.location

theorem header_trimmed (r : Resume) : header r.trimmed = header r := by
  have haddress : addressLines r.trimmed.person = addressLines r.person := addressLines_trimmed r.person
  simp only [header, fullName_trimmed, haddress]
  simp [Resume.trimmed, Entry.trimmed_person, escape?_orElse_trimmed?]

theorem declaration_trimmed (r : Resume) : declaration r.trimmed = declaration r := by
  rw [declaration, fullName_trimmed, declaration]

/-! ### Sections -/

theorem study_trimmed (s : Study) : study (Entry.trimmed s) = study s := by
  have hend : graduationOf (Entry.trimmed s) = trimmedDate? (graduationOf s) := by
    simp [graduationOf, Entry.trimmed_study, apply_ite trimmedDate?]
  have hdetails : studyDetails (Entry.trimmed s) = studyDetails s := by
    simp only [studyDetails, Entry.trimmed_study, isVisible_trimmed?, escape?_trimmed?, courseList_trimmedLines]
  rw [study, hend, hdetails, study]
  simp [Entry.trimmed_study, escape?_orElse_trimmed?]

theorem education_trimmed (r : Resume) : education r.trimmed = education r := by
  rw [education, Resume.trimmed, flatMap_trimmed study_trimmed, education]

theorem skills_trimmed (r : Resume) : skills r.trimmed = skills r := by
  have hgroups : skillGroups r.trimmed.skills = skillGroups r.skills := skillGroups_trimmed r.skills
  have hlanguages : spokenLanguages r.trimmed.person = spokenLanguages r.person := by
    simp [spokenLanguages, Resume.trimmed, Entry.trimmed_person, trimJoin_eq, List.filterMap_cons]
  rw [skills, hgroups, hlanguages, skills]

/-- Of each responsibility the lines are shown that show something. -/
theorem dutyLines_trimmed (j : Job) : dutyLines (Entry.trimmed j) = dutyLines j := by
  have hcut : ∀ s, ((lines s).map escape).filter (· ≠ "") =
      ((trimmedLines (lines s)).map escape).filter (· ≠ "") := fun s =>
    (filter_map_trimmedLines escape_trim (by decide) (lines s)).symm
  rw [dutyLines, dutyLines, Entry.trimmed_job, List.map_flatMap, List.map_flatMap, List.filter_flatMap,
    List.filter_flatMap]
  refine flatMap_trimmedLines (fun s => ?_) rfl j.responsibilities
  rw [hcut, trimmedLines_lines_trim, ← hcut]

theorem job_trimmed (j : Job) : job (Entry.trimmed j) = job j := by
  rw [job, dutyLines_trimmed, job]
  simp [Entry.trimmed_job, escape?_orElse_trimmed?]

theorem experience_trimmed (r : Resume) : experience r.trimmed = experience r := by
  rw [experience, Resume.trimmed, flatMap_trimmed job_trimmed, experience]

/-- The fields that are given, one after the other. -/
theorem map_filter_isVisible (fields : List (String × Option String)) :
    (fields.filter fun f => isVisible f.2).map (fun f => subItem f.1 f.2) =
      fields.flatMap fun f => if isVisible f.2 then [subItem f.1 f.2] else [] := by
  induction fields with
  | nil => rfl
  | cons f fields ih => by_cases h : isVisible f.2 <;> simp [h, ih]

theorem personalInformation_trimmed (r : Resume) : personalInformation r.trimmed = personalInformation r := by
  rw [personalInformation, map_filter_isVisible, personalInformation, map_filter_isVisible]
  simp [personalFields, Resume.trimmed, Entry.trimmed_person]

theorem referee_trimmed (r : Referee) : referee (Entry.trimmed r) = referee r := by
  rw [referee, escape?_contactOf_trimmed, referee]
  simp [Entry.trimmed_referee, escape?_orElse_trimmed?]

theorem references_trimmed (r : Resume) : references r.trimmed = references r := by
  rw [references, Resume.trimmed, flatMap_trimmed referee_trimmed, references]

theorem blocks_trimmed (r : Resume) : blocks r.trimmed = blocks r := by
  rw [blocks, header_trimmed, education_trimmed, skills_trimmed, experience_trimmed, personalInformation_trimmed,
    references_trimmed, declaration_trimmed, blocks]

end Vitae.Regional

namespace Vitae.Layout

theorem standardSections_trimmed (r : Resume) (today : Calendar.Date) :
    standardSections r.trimmed today = standardSections r today := by
  simp only [standardSections, Resume.trimmed, Section.contact_trimmed, Section.summary_trimmed?,
    Section.education_trimmed, Section.skills_trimmed, Section.experience_trimmed, Section.projects_trimmed,
    Section.certificates_trimmed, Section.publications_trimmed, Section.languages_trimmed,
    Section.volunteering_trimmed, Section.awards_trimmed, Section.hobbies_trimmed, Section.references_trimmed,
    Section.extras_trimmed, Section.footer_trimmed?]

/-- A layout draws the same blocks, or fails for the same cause. -/
theorem blocks_trimmed (layout : Layout) (r : Resume) (today : Calendar.Date) :
    layout.blocks r.trimmed today = layout.blocks r today := by
  cases layout with
  | standard => rw [blocks, blocks, standardBlocks, standardBlocks, standardSections_trimmed]
  | regional => rw [blocks, blocks, Regional.blocks_trimmed]
  | undefined => rfl

end Vitae.Layout
