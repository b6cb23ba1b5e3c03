import Vitae.Proofs.Layout.Headings
import Vitae.Proofs.Section.Shown

/-!
# Whose values headings show

A heading of a course of study or of a job has cells for two names, a place and the dates of
its entry (`entryValues`). Whatever the entry has to show in them stands in its cell
(`owns_entryCells_iff`). An entry with nothing to show is not left out, as the standard
layout leaves it out: it has a heading, too, with the fixed place for a place that was not
given (`headed_education_experience`).
-/

namespace Vitae.Regional

open Text Latex Calendar Section

/-- The values of an entry that stand in its cells: two names, a place and its dates. -/
def entryValues (first place second : Option String) (dates : String) : List (Option String) :=
  [first, place, second, some dates]

/-- The values of a course of study. -/
def studyValues (s : Study) : List (Option String) :=
  entryValues s.institution s.location s.degree (range s.startDate (graduationOf s) false)

/-- The values of a job. -/
def jobValues (j : Job) : List (Option String) :=
  entryValues j.company j.location j.jobTitle (range j.startDate j.endDate j.isCurrent)

/-- One of the values shows something, and stands in its cell. -/
def Heading.Owns (h : Heading) (values : List (Option String)) : Prop :=
  ∃ p ∈ values.zip h.cells, Shows p.1 ∧ p.2 = escape? p.1

/-- A course of study has something to show in a cell. -/
def CellsShow (s : Study) : Prop :=
  (∃ value ∈ [s.institution, s.location, s.degree], Shows value) ∨
    DateShows s.startDate ∨ DateShows s.graduationDate ∨ DateShows s.endDate

/-- Each entry has a heading, with a value of the entry if it has one to show, and else with nothing but the
fixed place. -/
def Headed {α : Type} (values : α → List (Option String)) (shows : α → Prop) (entries : List α)
    (headings : List Heading) : Prop :=
  List.Forall₂ (fun e h => (h.Owns (values e) ↔ shows e) ∧ (¬ shows e → h.cells = ["", "South Africa", "", ""]))
    entries headings

section

variable {first place second : Option String} {dates : String}

theorem exists_entryValues_iff : (∃ value ∈ entryValues first place second dates, Shows value) ↔
    (∃ value ∈ [first, place, second], Shows value) ∨ Shown dates := by
  simp [entryValues, or_assoc]

/-- Whatever an entry has to show stands in its cell. -/
theorem owns_entryCells_iff {h : Heading} (hcells : h.cells = entryCells first place second dates) :
    h.Owns (entryValues first place second dates) ↔ ∃ value ∈ entryValues first place second dates, Shows value := by
  constructor
  · rintro ⟨p, hp, hshows, -⟩
    exact ⟨p.1, (List.of_mem_zip hp).1, hshows⟩
  · rintro ⟨value, hvalue, hshows⟩
    have hplace : Shows place → shownOr place "South Africa" = escape? place := fun h => if_pos (isVisible_iff.mpr h)
    rw [Heading.Owns, hcells]
    simp only [entryValues, List.mem_cons, List.not_mem_nil, or_false] at hvalue
    rcases hvalue with rfl | rfl | rfl | rfl
    · exact ⟨_, .head _, hshows, rfl⟩
    · exact ⟨_, .tail _ (.head _), hshows, hplace hshows⟩
    · exact ⟨_, .tail _ (.tail _ (.head _)), hshows, rfl⟩
    · exact ⟨_, .tail _ (.tail _ (.tail _ (.head _))), hshows, rfl⟩

/-- An entry with nothing to show has the fixed place in its cells. -/
theorem entryCells_eq_of_not_shows (h : ¬ ∃ value ∈ entryValues first place second dates, Shows value) :
    entryCells first place second dates = ["", "South Africa", "", ""] := by
  have hempty : ∀ value ∈ entryValues first place second dates, escape? value = "" := by
    intro value hvalue
    by_contra hne
    exact h ⟨value, hvalue, escape?_ne_empty_iff.mp hne⟩
  have hplace : shownOr place "South Africa" = "South Africa" :=
    if_neg fun hvisible => h ⟨place, by simp [entryValues], isVisible_iff.mp hvisible⟩
  simp only [entryValues, List.forall_mem_cons] at hempty
  obtain ⟨hfirst, -, hsecond, hdates, -⟩ := hempty
  rw [escape?] at hdates
  rw [entryCells, hfirst, hplace, hsecond, hdates]

end

theorem exists_studyValues_iff {s : Study} : (∃ value ∈ studyValues s, Shows value) ↔ CellsShow s := by
  have hgraduation : DateShows (graduationOf s) ↔ DateShows s.graduationDate ∨ DateShows s.endDate := by
    rw [graduationOf_eq]
    split <;> simp [*]
  rw [studyValues, exists_entryValues_iff, shown_range_iff, hgraduation, CellsShow]
  simp

theorem exists_jobValues_iff {j : Job} : (∃ value ∈ jobValues j, Shows value) ↔ JobShows j := by
  rw [jobValues, exists_entryValues_iff, shown_range_iff, JobShows]

/-- Entries have headings when each one has its values in the cells. -/
theorem headed_map {α : Type} {values : α → List (Option String)} {shows : α → Prop} {heading : α → Heading}
    (h : ∀ e, ∃ first place second dates, values e = entryValues first place second dates ∧
      (heading e).cells = entryCells first place second dates)
    (hshows : ∀ e, (∃ value ∈ values e, Shows value) ↔ shows e) (entries : List α) :
    Headed values shows entries (entries.map heading) := by
  rw [Headed, List.forall₂_map_right_iff, List.forall₂_same]
  intro e _
  obtain ⟨first, place, second, dates, hvalues, hcells⟩ := h e
  rw [← hshows, hvalues]
  exact ⟨owns_entryCells_iff hcells, fun hnot => hcells.trans (entryCells_eq_of_not_shows hnot)⟩

/-- A section has lines as soon as it has an entry that has lines. -/
theorem listSection_flatMap_eq_nil_iff {α : Type} {title : String} {print : α → Block} {entries : List α}
    (h : ∀ e, print e ≠ []) : listSection title (entries.flatMap print) = [] ↔ entries = [] := by
  have hbody : ∀ body, listSection title body = [] ↔ body = [] := by
    intro body
    rw [listSection]
    split <;> simp [*]
  rw [hbody, List.flatMap_eq_nil_iff, List.eq_nil_iff_forall_not_mem]
  exact forall_congr' fun e => ⟨fun hnil hmem => h e (hnil hmem), fun hnot hmem => absurd hmem hnot⟩

/-- Every course of study and every job has a heading, also one that has nothing to show. The heading shows a
value of its entry exactly when the entry has one, and else the place that it was not given. -/
theorem headed_education_experience (r : Resume) :
    (education r = [] ↔ r.studies = []) ∧
    (∃ headings, readHeadings "Education" (education r) = some headings ∧
      Headed studyValues CellsShow r.studies headings) ∧
    (experience r = [] ↔ r.jobs = []) ∧
    ∃ headings, readHeadings "Professional Experience" (experience r) = some headings ∧
      Headed jobValues JobShows r.jobs headings := by
  have hstudies : Headed studyValues CellsShow r.studies (r.studies.map studyHeading) :=
    headed_map (fun s => ⟨_, _, _, _, rfl, studyHeading_cells s⟩) (fun _ => exists_studyValues_iff) r.studies
  have hjobs : Headed jobValues JobShows r.jobs (r.jobs.map jobHeading) :=
    headed_map (fun _ => ⟨_, _, _, _, rfl, rfl⟩) (fun _ => exists_jobValues_iff) r.jobs
  refine ⟨listSection_flatMap_eq_nil_iff fun s => ?_, ⟨_, readHeadings_education r, hstudies⟩,
    listSection_flatMap_eq_nil_iff fun j => ?_, ⟨_, readHeadings_experience r, hjobs⟩⟩
  · exact List.append_ne_nil_of_left_ne_nil (List.cons_ne_nil _ _) _
  · exact List.append_ne_nil_of_left_ne_nil (List.cons_ne_nil _ _) _

/-- A course of study without any values has a heading all the same, and shows the place it was not given. -/
theorem headed_blankStudy :
    education { studies := [{}] } =
      ["\\section\x7bEducation\x7d", "  \\resumeSubHeadingListStart", "    \\resumeSubheading",
        "      \x7b\x7d\x7bSouth Africa\x7d", "      \x7b\x7d\x7b\x7d", "  \\resumeSubHeadingListEnd", ""] ∧
    readHeadings "Education" (education { studies := [{}] }) = some [⟨["", "South Africa", "", ""], none⟩] ∧
    ¬ Heading.Owns ⟨["", "South Africa", "", ""], none⟩ (studyValues {}) := by
  have hnothing : ¬ ∃ value ∈ studyValues {}, Shows value := by
    rw [exists_studyValues_iff]
    simp [CellsShow, DateShows]
  refine ⟨by decide, (readHeadings_education _).trans (by decide), ?_⟩
  rintro ⟨p, hp, hshows, -⟩
  exact hnothing ⟨p.1, (List.of_mem_zip hp).1, hshows⟩

end Vitae.Regional
