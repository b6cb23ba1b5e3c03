import Vitae.Proofs.Resume.Accepted
import Vitae.Proofs.Resume.Blank
import Vitae.Proofs.Resume.Trimmed

/-!
# Values in two shapes

In a record a field of lines may be given as one text or as the list of its lines, and a part of which only the
name is known as that name or as a mapping with nothing else (`Reshaped`). The two ways of reading differ. A text
is cut into the lines that show something, while a list keeps all of its items, and a name that shows nothing is
passed over, while a mapping is a part whatever stands in it. So the résumés that are read from two such records
differ in nothing but blank lines, and in blank parts of the kinds that have names (`ofRecord_reshaped`).
-/

namespace Vitae

open Text Entry Calendar

/-! ### The two shapes -/

/-- The names of the fields of a kind of part that hold lines. -/
def Entry.lineNames (α : Type) [Entry α] : List String :=
  ((toFields (ofFields [] : α)).filter fun p => p.2.items?.isSome).map Prod.fst

/-- What can be given in two shapes in a kind of part. -/
structure Form where
  /-- The names of the fields that hold lines. -/
  lineNames : List String
  /-- Whether the part can be given by its name alone. -/
  isNamed : Bool

/-- The form of a kind of part. -/
def Form.of (α : Type) [Entry α] : Form where
  lineNames := Entry.lineNames α
  isNamed := (fieldNames α).contains "name"

/-- Two mappings with the same keys in the same order, whose values are related under the name of each. -/
def Reshapes (R : String → Datum → Datum → Prop) (p q : List (Datum × Datum)) : Prop :=
  List.Forall₂ (fun x y => x.1 = y.1 ∧ R (nameOf x) x.2 y.2) p q

/-- The value of a field in two shapes. -/
inductive Form.Value (form : Form) (name : String) : Datum → Datum → Prop where
  /-- A value stays as it is. -/
  | same (d : Datum) : form.Value name d d
  /-- A text is the list of its lines. -/
  | lines {s : String} (h : name ∈ form.lineNames) : form.Value name (.text s) (.ofLines (lines s))

/-- A part in two shapes. -/
inductive Form.Item (form : Form) : Datum → Datum → Prop where
  /-- An item stays as it is. -/
  | same (d : Datum) : form.Item d d
  /-- Fields of a mapping change their shapes. -/
  | fields {p q : List (Datum × Datum)} (h : Reshapes form.Value p q) : form.Item (.map p) (.map q)
  /-- A text is the mapping with that name. -/
  | name {s : String} (h : form.isNamed = true) : form.Item (.text s) (.map [(.text "name", .text s)])

/-- A list of parts in two shapes. -/
inductive Form.Items (form : Form) : Datum → Datum → Prop where
  /-- A value stays as it is. -/
  | same (d : Datum) : form.Items d d
  /-- Items of a list change their shapes. -/
  | list {xs ys : List Datum} (h : List.Forall₂ form.Item xs ys) : form.Items (.list xs) (.list ys)
  /-- Items of a list of fixed length change their shapes. -/
  | tuple {xs ys : List Datum} (h : List.Forall₂ form.Item xs ys) : form.Items (.tuple xs) (.tuple ys)

/-- The sections of a record with the forms of their parts. -/
def Resume.forms : List (String × Form) :=
  [("work_experience", .of Job), ("education", .of Study), ("skills", .of Skill), ("projects", .of Project),
   ("certifications", .of Certificate), ("languages", .of Language), ("volunteer_experience", .of VolunteerRole),
   ("awards", .of Award), ("publications", .of Publication), ("references", .of Referee), ("hobbies", .of Hobby),
   ("additional_sections", .of ExtraSection)]

/-- The value of a field of a record in two shapes: only sections have them. -/
def Resume.Value (name : String) (d e : Datum) : Prop := d = e ∨ ∃ form, (name, form) ∈ Resume.forms ∧ form.Items d e

/-- A record in two shapes: any number of its fields of lines that are given as texts are given as lists of
lines, and any number of its parts that are given as names are given as mappings. -/
def Reshaped (p q : List (Datum × Datum)) : Prop := Reshapes Resume.Value p q

/-- The values under a name are both missing, or they are related. -/
theorem Reshapes.rel_get? {R : String → Datum → Datum → Prop} {p q : List (Datum × Datum)} (h : Reshapes R p q)
    (name : String) : Option.Rel (R name) ((Fields.ofPairs p).get? name) ((Fields.ofPairs q).get? name) := by
  induction h with
  | nil => exact .none
  | @cons x y p q hpair _ ih =>
    obtain ⟨hkey, hvalue⟩ := hpair
    have hname : nameOf x = nameOf y := by rw [nameOf, hkey, nameOf]
    rw [Fields.get?_ofPairs_cons, Fields.get?_ofPairs_cons]
    generalize (Fields.ofPairs p).get? name = a, (Fields.ofPairs q).get? name = b at ih
    cases ih with
    | some hrel => exact .some hrel
    | none =>
      rw [Option.none_or, Option.none_or, ← hname]
      split
      · rename_i heq
        rw [heq] at hvalue
        exact .some hvalue
      · exact .none

/-! ### Fields -/

section Fields

variable {form : Form} {f g : Fields} {name : String}

/-- A field that holds no lines has one value only. -/
theorem get?_eq_of_not_mem (h : Option.Rel (form.Value name) (f.get? name) (g.get? name))
    (hname : name ∉ form.lineNames) : f.get? name = g.get? name := by
  generalize f.get? name = a, g.get? name = b at h
  cases h with
  | none => rfl
  | some h =>
    cases h with
    | same => rfl
    | lines hmem => exact absurd hmem hname

/-- The lines of a field that show something are the same in both shapes. -/
theorem trimmedLines_eq (h : Option.Rel (form.Value name) (f.get? name) (g.get? name)) :
    trimmedLines (f.lines name) = trimmedLines (g.lines name) := by
  rw [Fields.lines, Fields.lines]
  generalize f.get? name = a, g.get? name = b at h
  cases h with
  | none => rfl
  | some h =>
    cases h with
    | same => rfl
    | @lines s =>
      have htext : (Datum.text s).toLines = (Text.lines s).filter fun line => trim line ≠ "" := rfl
      rw [Option.elim_some, Option.elim_some, Datum.toLines_ofLines, htext, trimmedLines, trimmedLines, List.filter_map,
        List.filter_map, List.filter_filter]
      simp [Function.comp_def]

end Fields

/-! ### Parts -/

/-- A kind of part in which the shapes of values do not matter, but for blank lines and blank parts. -/
class LawfulShapes (α : Type) [Entry α] : Prop where
  /-- The trimmed form of a part depends on the lines of its fields that show something, and on the values of its
  other fields. -/
  trimmed_congr (f g : Fields) (hother : ∀ name, name ∉ lineNames α → f.get? name = g.get? name)
    (hlines : ∀ name ∈ lineNames α, trimmedLines (f.lines name) = trimmedLines (g.lines name)) :
    trimmed (ofFields f : α) = trimmed (ofFields g)
  /-- A part of which only a name is known is blank when the name is. -/
  isBlank_name (hname : "name" ∈ fieldNames α) (s : String) (h : ¬ Shown s) :
    Entry.isBlank (ofFields [("name", .text s)] : α) = true

theorem toText?_text (s : String) : (Datum.text s).toText? = some s := rfl

/-- Without fields of lines the part itself depends on the values of its fields. -/
theorem trimmed_congr_of_no_lines {α : Type} [Entry α] [LawfulEntry α] (hnone : lineNames α = []) (f g : Fields)
    (hother : ∀ name, name ∉ lineNames α → f.get? name = g.get? name) :
    trimmed (ofFields f : α) = trimmed (ofFields g) := by
  refine congrArg trimmed (LawfulEntry.ofFields_congr f g fun name _ => ?_)
  have hnot : name ∉ lineNames α := by
    rw [hnone]
    exact List.not_mem_nil
  rw [Fields.carried, Fields.carried, hother name hnot]

instance : LawfulShapes Job where
  trimmed_congr f g hother hlines := by
    have hnames : lineNames Job = ["responsibilities", "achievements"] := rfl
    rw [hnames] at hother hlines
    simp [trimmed_job, ofFields, Fields.text, Fields.date, Fields.flag, hother, hlines]
  isBlank_name hname := absurd hname (by decide)

instance : LawfulShapes Study where
  trimmed_congr f g hother hlines := by
    have hnames : lineNames Study = ["coursework"] := rfl
    rw [hnames] at hother hlines
    simp [trimmed_study, ofFields, Fields.text, Fields.date, hother, hlines]
  isBlank_name hname := absurd hname (by decide)

instance : LawfulShapes Skill where
  trimmed_congr f g hother _ := trimmed_congr_of_no_lines rfl f g hother
  isBlank_name _ s h := by simp [isBlank_skill_iff, ofFields, Fields.text, Fields.get?, toText?_text, h]

instance : LawfulShapes Project where
  trimmed_congr f g hother hlines := by
    have hnames : lineNames Project = ["description", "technologies"] := rfl
    rw [hnames] at hother hlines
    simp [trimmed_project, ofFields, Fields.text, Fields.date, hother, hlines]
  isBlank_name _ s h := by
    simp [isBlank_project_iff, ofFields, Fields.text, Fields.date, Fields.lines, Fields.get?, toText?_text, DateShows,
      h]

instance : LawfulShapes Certificate where
  trimmed_congr f g hother _ := trimmed_congr_of_no_lines rfl f g hother
  isBlank_name _ s h := by
    simp [isBlank_certificate_iff, ofFields, Fields.text, Fields.date, Fields.get?, toText?_text, DateShows, h]

instance : LawfulShapes Language where
  trimmed_congr f g hother _ := trimmed_congr_of_no_lines rfl f g hother
  isBlank_name _ s h := by simp [isBlank_language_iff, ofFields, Fields.text, Fields.get?, toText?_text, h]

instance : LawfulShapes VolunteerRole where
  trimmed_congr f g hother hlines := by
    have hnames : lineNames VolunteerRole = ["achievements"] := rfl
    rw [hnames] at hother hlines
    simp [trimmed_volunteerRole, ofFields, Fields.text, Fields.date, Fields.flag, hother, hlines]
  isBlank_name hname := absurd hname (by decide)

instance : LawfulShapes Award where
  trimmed_congr f g hother _ := trimmed_congr_of_no_lines rfl f g hother
  isBlank_name hname := absurd hname (by decide)

instance : LawfulShapes Publication where
  trimmed_congr f g hother _ := trimmed_congr_of_no_lines rfl f g hother
  isBlank_name hname := absurd hname (by decide)

instance : LawfulShapes Referee where
  trimmed_congr f g hother _ := trimmed_congr_of_no_lines rfl f g hother
  isBlank_name _ s h := by simp [isBlank_referee_iff, ofFields, Fields.text, Fields.get?, toText?_text, h]

instance : LawfulShapes Hobby where
  trimmed_congr f g hother _ := trimmed_congr_of_no_lines rfl f g hother
  isBlank_name _ s h := by simp [isBlank_hobby_iff, ofFields, Fields.text, Fields.get?, toText?_text, h]

instance : LawfulShapes ExtraSection where
  trimmed_congr f g hother _ := trimmed_congr_of_no_lines rfl f g hother
  isBlank_name hname := absurd hname (by decide)

/-- Whether a part is a blank one of a kind that has names. -/
def Entry.isSpare {α : Type} [Entry α] (e : α) : Bool := (fieldNames α).contains "name" && Entry.isBlank e

/-- The parts of a list without those. -/
def Entry.listed {α : Type} [Entry α] (entries : List α) : List α := entries.filter fun e => !isSpare e

section Items

variable {α : Type} [Entry α]

theorem listed_cons (e : α) (entries : List α) :
    listed (e :: entries) = if isSpare e then listed entries else e :: listed entries := by
  rw [listed, List.filter_cons]
  cases isSpare e <;> rfl

variable [LawfulShapes α]

/-- A mapping is read as the same part in both shapes, but for blank lines. -/
theorem trimmed_ofFields_eq {p q : List (Datum × Datum)} (h : Reshapes (Form.of α).Value p q) :
    trimmed (ofFields (Fields.ofPairs p) : α) = trimmed (ofFields (Fields.ofPairs q)) :=
  LawfulShapes.trimmed_congr _ _ (fun name hname => get?_eq_of_not_mem (h.rel_get? name) hname)
    fun name _ => trimmedLines_eq (h.rel_get? name)

variable [LawfulName α]

/-- An item is read as the same part in both shapes, but for blank lines, or it is passed over in the one shape
and a spare part in the other. -/
theorem ofItem?_cases {d e : Datum} (h : (Form.of α).Item d e) :
    (ofItem? d : Option α).map trimmed = (ofItem? e).map trimmed ∨
      ((ofItem? d : Option α) = none ∧ ∃ spare : α, ofItem? e = some spare ∧ isSpare spare = true) := by
  cases h with
  | same => exact .inl rfl
  | fields hfields => exact .inl (congrArg some (trimmed_ofFields_eq hfields))
  | @name s hnamed =>
    have hname : "name" ∈ fieldNames α := List.contains_iff_mem.mp hnamed
    have hmapping : (ofItem? (.map [(.text "name", .text s)]) : Option α) = some (ofFields [("name", .text s)]) := by
      have hkey : snakeCase "name" = "name" := by decide
      rw [ofItem?, Fields.ofPairs, List.map_singleton, Datum.plain, hkey]
    rw [ofItem?_text, hmapping]
    by_cases hs : trim s = ""
    · have hblank := LawfulShapes.isBlank_name hname s fun hshown => trim_ne_empty_iff.mpr hshown hs
      exact .inr ⟨if_neg fun hkept => hkept.2 hs, _, rfl, (Bool.and_eq_true _ _).mpr ⟨hnamed, hblank⟩⟩
    · exact .inl (by rw [if_pos ⟨hname, hs⟩])

/-- So are the items of a list: some parts between those that are read have the trimmed forms of the one shape,
and without spare parts they are the parts of the other. -/
theorem exists_filterMap_ofItem? {xs ys : List Datum} (h : List.Forall₂ (Form.of α).Item xs ys) :
    ∃ es : List α, es.map trimmed = (xs.filterMap ofItem?).map trimmed ∧
      listed es = listed (ys.filterMap ofItem?) := by
  induction h with
  | nil => exact ⟨[], rfl, rfl⟩
  | @cons d e xs ys hitem _ ih =>
    obtain ⟨es, htrimmed, hlisted⟩ := ih
    rcases ofItem?_cases hitem with heq | ⟨hnone, spare, hspare, hout⟩
    · cases hd : (ofItem? d : Option α) with
      | none =>
        have he : (ofItem? e : Option α) = none := by simpa [hd] using heq.symm
        exact ⟨es, by rw [List.filterMap_cons_none hd, htrimmed], by rw [List.filterMap_cons_none he, hlisted]⟩
      | some a =>
        obtain ⟨b, hb, hab⟩ : ∃ b, (ofItem? e : Option α) = some b ∧ trimmed b = trimmed a := by
          simpa [hd, eq_comm] using heq
        refine ⟨b :: es, ?_, ?_⟩
        · rw [List.filterMap_cons_some hd, List.map_cons, List.map_cons, hab, htrimmed]
        · rw [List.filterMap_cons_some hb, listed_cons, listed_cons, hlisted]
    · refine ⟨es, by rw [List.filterMap_cons_none hnone, htrimmed], ?_⟩
      rw [List.filterMap_cons_some hspare, listed_cons, if_pos hout, hlisted]

theorem exists_ofList {d e : Datum} (h : (Form.of α).Items d e) :
    ∃ es : List α, es.map trimmed = (ofList α d).map trimmed ∧ listed es = listed (ofList α e) := by
  cases h with
  | same => exact ⟨_, rfl, rfl⟩
  | list h => exact exists_filterMap_ofItem? h
  | tuple h => exact exists_filterMap_ofItem? h

end Items

/-! ### Records -/

namespace Resume

/-- A résumé without the spare parts of its sections. -/
def listed (r : Resume) : Resume :=
  { r with
    jobs := Entry.listed r.jobs
    studies := Entry.listed r.studies
    skills := Entry.listed r.skills
    projects := Entry.listed r.projects
    certificates := Entry.listed r.certificates
    languages := Entry.listed r.languages
    volunteering := Entry.listed r.volunteering
    awards := Entry.listed r.awards
    publications := Entry.listed r.publications
    referees := Entry.listed r.referees
    hobbies := Entry.listed r.hobbies
    extras := Entry.listed r.extras }

variable {p q : List (Datum × Datum)}

/-- The value of a field that is no section is the same in both shapes. -/
theorem get?_eq_of_reshaped (h : Reshaped p q) {name : String} (hname : name ∉ forms.map Prod.fst) :
    (Fields.ofPairs p).get? name = (Fields.ofPairs q).get? name := by
  have hrel := h.rel_get? name
  generalize (Fields.ofPairs p).get? name = a, (Fields.ofPairs q).get? name = b at hrel
  cases hrel with
  | none => rfl
  | some hvalue =>
    rcases hvalue with rfl | ⟨form, hform, -⟩
    · rfl
    · exact absurd (List.mem_map_of_mem hform) hname

/-- The value of a section is a list of parts in the two shapes. -/
theorem rel_items_of_reshaped (h : Reshaped p q) {name : String} {form : Form}
    (hform : forms.filter (fun f => f.1 = name) = [(name, form)]) :
    Option.Rel form.Items ((Fields.ofPairs p).get? name) ((Fields.ofPairs q).get? name) := by
  have hrel := h.rel_get? name
  generalize (Fields.ofPairs p).get? name = a, (Fields.ofPairs q).get? name = b at hrel
  cases hrel with
  | none => exact .none
  | some hvalue =>
    rcases hvalue with rfl | ⟨form', hform', hitems⟩
    · exact .some (.same _)
    · have hmem : (name, form') ∈ forms.filter fun f => f.1 = name := List.mem_filter.mpr ⟨hform', by simp⟩
      rw [hform, List.mem_singleton] at hmem
      rw [(Prod.mk.inj hmem).2] at hitems
      exact .some hitems

/-- The values of two records are the same in each field that is no section, and in each section they are lists of
parts in the two shapes. -/
structure ReshapedFields (f g : Fields) : Prop where
  /-- The fields that are no sections. -/
  other : ∀ name, name ∉ forms.map Prod.fst → f.get? name = g.get? name
  /-- The jobs. -/
  jobs : Option.Rel (Form.of Job).Items (f.get? "work_experience") (g.get? "work_experience")
  /-- The courses of study. -/
  studies : Option.Rel (Form.of Study).Items (f.get? "education") (g.get? "education")
  /-- The skills. -/
  skills : Option.Rel (Form.of Skill).Items (f.get? "skills") (g.get? "skills")
  /-- The projects. -/
  projects : Option.Rel (Form.of Project).Items (f.get? "projects") (g.get? "projects")
  /-- The certificates. -/
  certificates : Option.Rel (Form.of Certificate).Items (f.get? "certifications") (g.get? "certifications")
  /-- The languages. -/
  languages : Option.Rel (Form.of Language).Items (f.get? "languages") (g.get? "languages")
  /-- The voluntary roles. -/
  volunteering : Option.Rel (Form.of VolunteerRole).Items (f.get? "volunteer_experience")
    (g.get? "volunteer_experience")
  /-- The awards. -/
  awards : Option.Rel (Form.of Award).Items (f.get? "awards") (g.get? "awards")
  /-- The publications. -/
  publications : Option.Rel (Form.of Publication).Items (f.get? "publications") (g.get? "publications")
  /-- The people who give a reference. -/
  referees : Option.Rel (Form.of Referee).Items (f.get? "references") (g.get? "references")
  /-- The hobbies. -/
  hobbies : Option.Rel (Form.of Hobby).Items (f.get? "hobbies") (g.get? "hobbies")
  /-- The sections of free form. -/
  extras : Option.Rel (Form.of ExtraSection).Items (f.get? "additional_sections") (g.get? "additional_sections")

theorem reshapedFields_of_reshaped (h : Reshaped p q) : ReshapedFields (Fields.ofPairs p) (Fields.ofPairs q) := by
  constructor
  · exact fun _ hname => get?_eq_of_reshaped h hname
  all_goals exact rel_items_of_reshaped h rfl

theorem exists_entriesOf {α : Type} [Entry α] [LawfulShapes α] [LawfulName α] {f g : Fields} {name : String}
    (h : Option.Rel (Form.of α).Items (f.get? name) (g.get? name)) :
    ∃ es : List α, es.map Entry.trimmed = (entriesOf α f name).map Entry.trimmed ∧
      Entry.listed es = Entry.listed (entriesOf α g name) := by
  rw [entriesOf, entriesOf]
  generalize f.get? name = a, g.get? name = b at h
  cases h with
  | none => exact ⟨[], rfl, rfl⟩
  | some h => exact exists_ofList h

/-- Such records are read as the same résumé, but for blank lines and spare parts. -/
theorem ReshapedFields.exists_ofFields {f g : Fields} (h : ReshapedFields f g) :
    ∃ r : Resume, r.trimmed = (ofFields f).trimmed ∧ r.listed = (ofFields g).listed := by
  obtain ⟨jobs, hjobs, hjobs'⟩ := exists_entriesOf h.jobs
  obtain ⟨studies, hstudies, hstudies'⟩ := exists_entriesOf h.studies
  obtain ⟨skills, hskills, hskills'⟩ := exists_entriesOf h.skills
  obtain ⟨projects, hprojects, hprojects'⟩ := exists_entriesOf h.projects
  obtain ⟨certificates, hcertificates, hcertificates'⟩ := exists_entriesOf h.certificates
  obtain ⟨languages, hlanguages, hlanguages'⟩ := exists_entriesOf h.languages
  obtain ⟨volunteering, hvolunteering, hvolunteering'⟩ := exists_entriesOf h.volunteering
  obtain ⟨awards, hawards, hawards'⟩ := exists_entriesOf h.awards
  obtain ⟨publications, hpublications, hpublications'⟩ := exists_entriesOf h.publications
  obtain ⟨referees, hreferees, hreferees'⟩ := exists_entriesOf h.referees
  obtain ⟨hobbies, hhobbies, hhobbies'⟩ := exists_entriesOf h.hobbies
  obtain ⟨extras, hextras, hextras'⟩ := exists_entriesOf h.extras
  have hperson : personOf f = personOf g := by rw [personOf, h.other _ (by decide), personOf]
  have hsummary : f.text "professional_summary" = g.text "professional_summary" := by
    rw [Fields.text, h.other _ (by decide), Fields.text]
  have htracking : f.text "tracking_url" = g.text "tracking_url" := by
    rw [Fields.text, h.other _ (by decide), Fields.text]
  let r : Resume :=
    { ofFields g with
      jobs := jobs
      studies := studies
      skills := skills
      projects := projects
      certificates := certificates
      languages := languages
      volunteering := volunteering
      awards := awards
      publications := publications
      referees := referees
      hobbies := hobbies
      extras := extras }
  have htrimmed : r.trimmed = (ofFields f).trimmed := by
    simp only [r, trimmed, ofFields, hperson, hsummary, htracking, hjobs, hstudies, hskills, hprojects, hcertificates,
      hlanguages, hvolunteering, hawards, hpublications, hreferees, hhobbies, hextras]
  have hlisted : r.listed = (ofFields g).listed := by
    simp only [r, listed, ofFields, hjobs', hstudies', hskills', hprojects', hcertificates', hlanguages',
      hvolunteering', hawards', hpublications', hreferees', hhobbies', hextras']
  exact ⟨r, htrimmed, hlisted⟩

/-! ### Numbers that are too long -/

/-- Tests that related values pass alike are passed by all of the ones or not by all of the others. -/
theorem all_eq_of_forall₂ {β : Type} {R : β → β → Prop} {test : β → Bool} (htest : ∀ x y, R x y → test x = test y)
    {xs ys : List β} (h : List.Forall₂ R xs ys) : xs.all test = ys.all test := by
  induction h with
  | nil => rfl
  | cons hitem _ ih => rw [List.all_cons, List.all_cons, htest _ _ hitem, ih]

/-- Texts can be written in both shapes. -/
theorem isShown_eq_of_value {form : Form} {name : String} {d e : Datum} (h : form.Value name d e) :
    d.isShown = e.isShown := by
  cases h with
  | same => rfl
  | lines => rw [Datum.isShown_ofLines]; rfl

theorem isPartReadable_eq {α : Type} [Entry α] {form : Form} (h : Reshapes form.Value p q) :
    Entry.isReadable α p = Entry.isReadable α q := by
  refine all_eq_of_forall₂ (fun x y hxy => ?_) h
  rw [hxy.1, isShown_eq_of_value hxy.2]

/-- A mapping with a name can be read. -/
theorem isPartReadable_name (α : Type) [Entry α] (s : String) :
    Entry.isReadable α [(.text "name", .text s)] = true := by
  have hshown : ∀ t, (Datum.text t).isShown = true := fun _ => rfl
  rw [Entry.isReadable, List.all_cons, List.all_nil, hshown, hshown, Bool.or_true, Bool.and_self, Bool.and_self]

theorem isSectionReadable_eq {α : Type} [Entry α] {f g : Fields} {name : String}
    (h : Option.Rel (Form.of α).Items (f.get? name) (g.get? name)) :
    isSectionReadable α f name = isSectionReadable α g name := by
  rw [isSectionReadable, isSectionReadable]
  generalize f.get? name = a, g.get? name = b at h
  cases h with
  | none => rfl
  | some h =>
    cases h with
    | same => rfl
    | list h | tuple h =>
      refine all_eq_of_forall₂ (fun x y hitem => ?_) h
      cases hitem with
      | same => rfl
      | fields hfields => exact isPartReadable_eq hfields
      | name => exact (isPartReadable_name α _).symm

/-- Such records can both be read, or none of them. -/
theorem ReshapedFields.isReadable_eq {f g : Fields} (h : ReshapedFields f g) : isReadable f = isReadable g := by
  rw [isReadable, isReadable, h.other "personal_info" (by decide), h.other "professional_summary" (by decide),
    h.other "tracking_url" (by decide), isSectionReadable_eq h.jobs, isSectionReadable_eq h.studies,
    isSectionReadable_eq h.skills, isSectionReadable_eq h.projects, isSectionReadable_eq h.certificates,
    isSectionReadable_eq h.languages, isSectionReadable_eq h.volunteering, isSectionReadable_eq h.awards,
    isSectionReadable_eq h.publications, isSectionReadable_eq h.referees, isSectionReadable_eq h.hobbies,
    isSectionReadable_eq h.extras]

/-- What is read of a record that is a mapping. -/
theorem ofRecord_map (p : List (Datum × Datum)) :
    ofRecord (.map p) =
      if areKeysReadable (.map p) = true then
        (if isReadable (Fields.ofPairs p) = true then .ok (ofFields (Fields.ofPairs p)) else .error .numberTooLong,
          warnings (Fields.ofPairs p))
      else (.error .numberTooLong, []) := by
  rw [ofRecord]
  cases areKeysReadable (.map p) with
  | false => rfl
  | true =>
    cases hread : isReadable (Fields.ofPairs p) with
    | false => simp [ofDatum?, Datum.pairs?, hread]
    | true => simp [ofDatum?, Datum.pairs?, hread]

/-- **A record in two shapes.** It is refused in both of them, for the same cause, or read in both, with the same
warnings, as résumés that differ in nothing but blank lines and spare parts. -/
theorem ofRecord_reshaped (h : Reshaped p q) :
    (ofRecord (.map p)).2 = (ofRecord (.map q)).2 ∧
      ((∃ e, (ofRecord (.map p)).1 = .error e ∧ (ofRecord (.map q)).1 = .error e) ∨
        ∃ r r' s : Resume, (ofRecord (.map p)).1 = .ok r ∧ (ofRecord (.map q)).1 = .ok r' ∧
          s.trimmed = r.trimmed ∧ s.listed = r'.listed) := by
  have hfields := reshapedFields_of_reshaped h
  have hkeys : areKeysReadable (.map p) = areKeysReadable (.map q) :=
    all_eq_of_forall₂ (fun x y hxy => by rw [hxy.1]) h
  have hwarnings : warnings (Fields.ofPairs p) = warnings (Fields.ofPairs q) := by
    rw [warnings, hfields.other _ (by decide), warnings]
  obtain ⟨s, htrimmed, hlisted⟩ := hfields.exists_ofFields
  rw [ofRecord_map, ofRecord_map, hkeys, hfields.isReadable_eq, hwarnings]
  cases areKeysReadable (.map q) with
  | false => exact ⟨rfl, .inl ⟨_, rfl, rfl⟩⟩
  | true =>
    cases isReadable (Fields.ofPairs q) with
    | false => exact ⟨rfl, .inl ⟨_, rfl, rfl⟩⟩
    | true => exact ⟨rfl, .inr ⟨_, _, s, rfl, rfl, htrimmed, hlisted⟩⟩

end Resume

end Vitae
