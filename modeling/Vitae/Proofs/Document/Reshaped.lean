import Vitae.Proofs.Document.Rendering
import Vitae.Proofs.Layout.Padded
import Vitae.Proofs.Resume.Reshaped

/-!
# Bodies of records in two shapes

Nothing is shown for a blank part of a kind that has names, in the regional layout either: a skill and a person
who gives a reference are left out there without a name (`blocks_listed`). And no layout tells a text from its
lines, since it shows only the lines that show something. So a record has the same body whether a field of lines
is given as a text or as the list of its lines, and whether a part is given as its name or as a mapping with that
name (`renderBody_reshaped`).
-/

namespace Vitae

open Text Calendar Section

/-! ### Spare parts -/

section

variable {α : Type} [Entry α]

theorem filled_listed (entries : List α) : Entry.filled (Entry.listed entries) = Entry.filled entries := by
  rw [Entry.filled, Entry.listed, List.filter_filter]
  refine List.filter_congr fun e _ => ?_
  rw [Entry.isSpare]
  cases Entry.isBlank e <;> simp

theorem listed_eq_filled (h : "name" ∈ Entry.fieldNames α) (entries : List α) :
    Entry.listed entries = Entry.filled entries := by
  have hname : (Entry.fieldNames α).contains "name" = true := List.contains_iff_mem.mpr h
  simp only [Entry.listed, Entry.filled, Entry.isSpare, hname, Bool.true_and]

theorem listed_eq_self (h : "name" ∉ Entry.fieldNames α) (entries : List α) : Entry.listed entries = entries := by
  refine List.filter_eq_self.mpr fun e _ => ?_
  simp [Entry.isSpare, h]

end

/-- The résumé without spare parts has the same entries that are filled in. -/
theorem Resume.filled_listed (r : Resume) : r.listed.filled = r.filled := by
  simp only [Resume.filled, Resume.listed, Vitae.filled_listed]

namespace Regional

theorem education_listed (r : Resume) : education r.listed = education r := by
  have hstudies : r.listed.studies = r.studies := listed_eq_self (by decide) r.studies
  rw [education, hstudies, education]

theorem experience_listed (r : Resume) : experience r.listed = experience r := by
  have hjobs : r.listed.jobs = r.jobs := listed_eq_self (by decide) r.jobs
  rw [experience, hjobs, experience]

theorem skills_listed (r : Resume) : skills r.listed = skills r := by
  have hblank : ∀ s : Skill, Entry.isBlank s = true → ¬ Shows s.name := fun s hs => (isBlank_skill_iff.mp hs).1
  have hskills : r.listed.skills = Entry.filled r.skills := listed_eq_filled (by decide) r.skills
  have hgroups : skillGroups r.listed.skills = skillGroups r.skills := by
    rw [hskills, skillGroups, groupNames_filled hblank, skillGroups]
  rw [skills, hgroups, skills, Resume.listed]

theorem references_listed (r : Resume) : references r.listed = references r := by
  have hblank : ∀ e : Referee, Entry.isBlank e = true → referee e = [] := by
    intro e he
    rw [referee, if_neg]
    exact fun hvisible => (isBlank_referee_iff.mp he).1 (isVisible_iff.mp hvisible)
  have hreferees : r.listed.referees = Entry.filled r.referees := listed_eq_filled (by decide) r.referees
  rw [references, hreferees, flatMap_filled hblank, references]

theorem blocks_listed (r : Resume) : blocks r.listed = blocks r := by
  rw [blocks, education_listed, skills_listed, experience_listed, references_listed]
  rfl

end Regional

namespace Layout

/-- Spare parts change no block of any layout. -/
theorem blocks_listed (layout : Layout) (r : Resume) (today : Date) :
    layout.blocks r.listed today = layout.blocks r today := by
  cases layout with
  | standard => rw [← blocks_standard_filled r.listed, r.filled_listed, blocks_standard_filled]
  | regional => rw [blocks, blocks, Regional.blocks_listed]
  | undefined => rfl

end Layout

namespace Assembler

/-- **Two shapes of a record.** A record is refused in both shapes for the same cause, or read in both, and with
the same warnings. When it is read, it has the same body in both shapes, whatever the layout and the day, or none
for the same cause. -/
theorem renderBody_reshaped {p q : List (Datum × Datum)} (h : Reshaped p q) :
    (Resume.ofRecord (.map p)).2 = (Resume.ofRecord (.map q)).2 ∧
      ∀ (a : Assembler) (id : String) (today : Date),
        (Resume.ofRecord (.map p)).1.map (fun r => a.renderBody id r today) =
          (Resume.ofRecord (.map q)).1.map fun r => a.renderBody id r today := by
  obtain ⟨hlog, hread⟩ := Resume.ofRecord_reshaped h
  refine ⟨hlog, fun a id today => ?_⟩
  rcases hread with ⟨e, hp, hq⟩ | ⟨r, r', s, hp, hq, htrimmed, hlisted⟩
  · rw [hp, hq]
  · have hblocks : ∀ layout : Layout, layout.blocks r today = layout.blocks r' today := by
      intro layout
      rw [← layout.blocks_trimmed r, ← htrimmed, layout.blocks_trimmed s, ← layout.blocks_listed s, hlisted,
        layout.blocks_listed r']
    have hbody : a.renderBody id r today = a.renderBody id r' today := by
      rw [renderBody, Layout.body, hblocks, renderBody, Layout.body]
    rw [hp, hq]
    exact congrArg Except.ok hbody

/-- A job whose duties are one text, and two skills by their names, of which one shows nothing. -/
def briefRecord : List (Datum × Datum) :=
  [(.text "workExperience",
      .list [.map [(.text "company", .text "ACME"), (.text "responsibilities", .text "Plan\n\nTest")]]),
   (.text "skills", .list [.text "Lean", .text " "])]

/-- The same with a list of lines and with mappings. -/
def fullRecord : List (Datum × Datum) :=
  [(.text "workExperience",
      .list [.map [(.text "company", .text "ACME"), (.text "responsibilities", .ofLines (lines "Plan\n\nTest"))]]),
   (.text "skills", .list [.map [(.text "name", .text "Lean")], .map [(.text "name", .text " ")]])]

theorem reshaped_briefRecord : Reshaped briefRecord fullRecord := by
  have hjobs : (nameOf (.text "workExperience", .null), Form.of Job) ∈ Resume.forms := List.mem_of_getElem? (i := 0) rfl
  have hskills : (nameOf (.text "skills", .null), Form.of Skill) ∈ Resume.forms := List.mem_of_getElem? (i := 2) rfl
  have hduties : nameOf (.text "responsibilities", .null) ∈ (Form.of Job).lineNames := by decide
  have hjob : (Form.of Job).Item
      (.map [(.text "company", .text "ACME"), (.text "responsibilities", .text "Plan\n\nTest")])
      (.map [(.text "company", .text "ACME"), (.text "responsibilities", .ofLines (lines "Plan\n\nTest"))]) :=
    .fields (.cons ⟨rfl, .same _⟩ (.cons ⟨rfl, .lines hduties⟩ .nil))
  have hnames : (Form.of Skill).Items (.list [.text "Lean", .text " "])
      (.list [.map [(.text "name", .text "Lean")], .map [(.text "name", .text " ")]]) :=
    .list (.cons (.name rfl) (.cons (.name rfl) .nil))
  exact .cons ⟨rfl, .inr ⟨_, hjobs, .list (.cons hjob .nil)⟩⟩ (.cons ⟨rfl, .inr ⟨_, hskills, hnames⟩⟩ .nil)

theorem renderBody_reshaped_briefRecord : Reshaped briefRecord fullRecord ∧
    (Resume.ofRecord (.map briefRecord)).2 = (Resume.ofRecord (.map fullRecord)).2 ∧
      ∀ (a : Assembler) (id : String) (today : Date),
        (Resume.ofRecord (.map briefRecord)).1.map (fun r => a.renderBody id r today) =
          (Resume.ofRecord (.map fullRecord)).1.map fun r => a.renderBody id r today :=
  ⟨reshaped_briefRecord, renderBody_reshaped reshaped_briefRecord⟩

end Assembler

end Vitae
