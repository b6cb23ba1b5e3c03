import Vitae.Proofs.Resume.Association
import Vitae.Proofs.Text.Shown
import Vitae.Resume.Record

/-!
# What is accepted

A record is refused when it is no mapping, and for nothing else, as long as its numbers can
be written: whatever stands in it, at any depth and in any place (`ofRecord_accepts`). Of
the items of a section those are kept that are mappings, and the texts that show something
if the parts there have names; all else is dropped (`Keeps`). A person that is given by
something else than a mapping is passed over, with a warning unless it is a missing value (`KeepsPerson`).
-/

namespace Vitae

open Text Entry

/-! ### Names of parts -/

/-- A kind of part of which a text is the name exactly when it has a field for one. -/
class LawfulName (α : Type) [Entry α] : Prop where
  /-- The part with only a name is the one with that field. -/
  ofName?_eq : (ofName? : Option (String → α)) =
    if "name" ∈ fieldNames α then some fun s => ofFields [("name", .text s)] else none

instance : LawfulName Job := ⟨by rw [if_neg (by decide)]; rfl⟩
instance : LawfulName Study := ⟨by rw [if_neg (by decide)]; rfl⟩
instance : LawfulName Skill := ⟨by rw [if_pos (by decide)]; rfl⟩
instance : LawfulName Project := ⟨by rw [if_pos (by decide)]; rfl⟩
instance : LawfulName Certificate := ⟨by rw [if_pos (by decide)]; rfl⟩
instance : LawfulName Language := ⟨by rw [if_pos (by decide)]; rfl⟩
instance : LawfulName VolunteerRole := ⟨by rw [if_neg (by decide)]; rfl⟩
instance : LawfulName Award := ⟨by rw [if_neg (by decide)]; rfl⟩
instance : LawfulName Publication := ⟨by rw [if_neg (by decide)]; rfl⟩
instance : LawfulName Referee := ⟨by rw [if_pos (by decide)]; rfl⟩
instance : LawfulName Hobby := ⟨by rw [if_pos (by decide)]; rfl⟩
instance : LawfulName ExtraSection := ⟨by rw [if_neg (by decide)]; rfl⟩

/-! ### What is kept -/

/-- What becomes of the items of a list of parts. -/
inductive Keeps (α : Type) [Entry α] : List Datum → List α → Prop where
  /-- Nothing comes from nothing. -/
  | nil : Keeps α [] []
  /-- A mapping is the part with its fields. -/
  | mapping {p : List (Datum × Datum)} {items : List Datum} {es : List α} (h : Keeps α items es) :
    Keeps α (.map p :: items) (ofFields (Fields.ofPairs p) :: es)
  /-- A text that shows something is the part with that name, if parts of the kind have names. -/
  | named {s : String} {items : List Datum} {es : List α} (hname : "name" ∈ fieldNames α) (hs : Shown s)
    (h : Keeps α items es) : Keeps α (.text s :: items) (ofFields [("name", .text s)] :: es)
  /-- Any other item is dropped. -/
  | dropped {d : Datum} {items : List Datum} {es : List α} (hmap : d.pairs? = none)
    (htext : ∀ s, d = .text s → "name" ∈ fieldNames α → ¬ Shown s) (h : Keeps α items es) :
    Keeps α (d :: items) es

/-- The parts of a section are those that are kept of the items of its list, and no others. A value that
is no list has no items. -/
def KeepsSection (α : Type) [Entry α] (value : Option Datum) (es : List α) : Prop :=
  ∀ es', Keeps α ((value.bind Datum.items?).getD []) es' ↔ es' = es

/-- What becomes of the value that is given for the person, and the warning about it. -/
inductive KeepsPerson : Option Datum → Person → Log → Prop where
  /-- No person is given. -/
  | missing : KeepsPerson none {} []
  /-- A missing value is given, which is the same as none. -/
  | null : KeepsPerson (some .null) {} []
  /-- A mapping is the person with its fields. -/
  | mapping (p : List (Datum × Datum)) : KeepsPerson (some (.map p)) (ofFields (Fields.ofPairs p)) []
  /-- Anything else is passed over, with one warning. -/
  | other {d : Datum} (hnull : d ≠ .null) (hmap : d.pairs? = none) :
    KeepsPerson (some d) {}
      [.template .warning ("Ignoring personalInfo of type " ++ d.kind ++ "; expected a mapping")]

section Kept

variable {α : Type} [Entry α]

/-- An item that is neither a mapping nor a text is none. -/
theorem ofItem?_other {d : Datum} (hmap : d.pairs? = none) (htext : ∀ s, d ≠ .text s) :
    (ofItem? d : Option α) = none := by
  cases d with
  | map p => cases hmap
  | text s => exact absurd rfl (htext s)
  | _ => rfl

variable [LawfulName α]

/-- The item that a text is, if it is one. -/
theorem ofItem?_text (s : String) :
    (ofItem? (.text s) : Option α) =
      if "name" ∈ fieldNames α ∧ trim s ≠ "" then some (ofFields [("name", .text s)]) else none := by
  rw [ofItem?, LawfulName.ofName?_eq]
  by_cases hname : "name" ∈ fieldNames α <;> by_cases hs : trim s = "" <;> simp [hname, hs]

theorem keeps_filterMap (items : List Datum) : Keeps α items (items.filterMap ofItem?) := by
  induction items with
  | nil => exact .nil
  | cons d items ih =>
    by_cases hmap : ∃ p, d = .map p
    · obtain ⟨p, rfl⟩ := hmap
      exact .mapping ih
    · have hpairs : d.pairs? = none := by
        cases d with
        | map p => exact absurd ⟨p, rfl⟩ hmap
        | _ => rfl
      by_cases htext : ∃ s, d = .text s
      · obtain ⟨s, rfl⟩ := htext
        rw [List.filterMap_cons, ofItem?_text]
        by_cases hkept : "name" ∈ fieldNames α ∧ trim s ≠ ""
        · rw [if_pos hkept]
          exact .named hkept.1 (trim_ne_empty_iff.mp hkept.2) ih
        · rw [if_neg hkept]
          refine .dropped hpairs (fun s' hs' hname hshown => hkept ⟨hname, ?_⟩) ih
          rw [Datum.text.inj hs']
          exact trim_ne_empty_iff.mpr hshown
      · rw [List.filterMap_cons, ofItem?_other hpairs fun s hs => htext ⟨s, hs⟩]
        exact .dropped hpairs (fun s hs => absurd ⟨s, hs⟩ htext) ih

theorem Keeps.eq_filterMap {items : List Datum} {es : List α} (h : Keeps α items es) :
    es = items.filterMap ofItem? := by
  induction h with
  | nil => rfl
  | mapping _ ih =>
    rw [List.filterMap_cons, ← ih]
    rfl
  | named hname hs _ ih =>
    rw [List.filterMap_cons, ofItem?_text, if_pos ⟨hname, trim_ne_empty_iff.mpr hs⟩, ← ih]
  | @dropped d _ _ hmap htext _ ih =>
    have hnone : (ofItem? d : Option α) = none := by
      by_cases hd : ∃ s, d = .text s
      · obtain ⟨s, rfl⟩ := hd
        rw [ofItem?_text, if_neg]
        exact fun hkept => htext s rfl hkept.1 (trim_ne_empty_iff.mp hkept.2)
      · exact ofItem?_other hmap fun s hs => hd ⟨s, hs⟩
    rw [List.filterMap_cons, hnone, ← ih]

/-- A section is made of the items that are kept. -/
theorem keepsSection_entriesOf (fields : Fields) (name : String) :
    KeepsSection α (fields.get? name) (Resume.entriesOf α fields name) := by
  intro es'
  have hentries : Resume.entriesOf α fields name =
      (((fields.get? name).bind Datum.items?).getD []).filterMap ofItem? := by
    rw [Resume.entriesOf]
    cases fields.get? name <;> rfl
  rw [hentries]
  refine ⟨Keeps.eq_filterMap, ?_⟩
  rintro rfl
  exact keeps_filterMap _

end Kept

theorem keepsPerson_personOf (fields : Fields) :
    KeepsPerson (fields.get? "personal_info") (Resume.personOf fields) (Resume.warnings fields) := by
  rw [Resume.personOf, Resume.warnings]
  cases fields.get? "personal_info" with
  | none => exact .missing
  | some d =>
    cases d with
    | null => exact .null
    | map p => exact .mapping p
    | _ => exact .other nofun rfl

/-! ### Numbers that can be written -/

namespace Datum

/-- In a value that has a text all keys and values do. -/
theorem isShown_of_mem_pairs {p : List (Datum × Datum)} (h : (Datum.map p).isShown = true) :
    ∀ pair ∈ p, pair.1.isShown = true ∧ pair.2.isShown = true := by
  rw [isShown] at h
  induction p with
  | nil => exact List.forall_mem_nil _
  | cons pair p ih =>
    rw [arePairsShown, Bool.and_eq_true, Bool.and_eq_true] at h
    exact List.forall_mem_cons.mpr ⟨h.1, ih h.2⟩

theorem isShown_of_mem_areShown {items : List Datum} (h : areShown items = true) :
    ∀ d ∈ items, d.isShown = true := by
  induction items with
  | nil => exact List.forall_mem_nil _
  | cons d items ih =>
    rw [areShown, Bool.and_eq_true] at h
    exact List.forall_mem_cons.mpr ⟨h.1, ih h.2⟩

/-- So do all items. -/
theorem isShown_of_mem_items? {d : Datum} (h : d.isShown = true) :
    ∀ item ∈ d.items?.getD [], item.isShown = true := by
  cases d with
  | list items | tuple items =>
    rw [isShown] at h
    exact isShown_of_mem_areShown h
  | _ => exact List.forall_mem_nil _

end Datum

theorem Fields.isShown_of_get? {p : List (Datum × Datum)} (h : (Datum.map p).isShown = true) {name : String}
    {d : Datum} (hd : (Fields.ofPairs p).get? name = some d) : d.isShown = true := by
  obtain ⟨pair, hpair, heq⟩ := List.mem_map.mp (Fields.mem_of_get? hd)
  rw [← (Prod.mk.inj heq).2]
  exact (Datum.isShown_of_mem_pairs h pair hpair).2

/-- A part all of whose numbers can be written can be read. -/
theorem Entry.isReadable_of_isShown (α : Type) [Entry α] {p : List (Datum × Datum)}
    (h : (Datum.map p).isShown = true) : isReadable α p = true := by
  refine List.all_eq_true.mpr fun pair hpair => ?_
  obtain ⟨hkey, hvalue⟩ := Datum.isShown_of_mem_pairs h pair hpair
  rw [hkey, hvalue, Bool.or_true]
  rfl

namespace Resume

variable {p : List (Datum × Datum)}

theorem isSectionReadable_of_isShown (α : Type) [Entry α] (h : (Datum.map p).isShown = true) (name : String) :
    isSectionReadable α (Fields.ofPairs p) name = true := by
  rw [isSectionReadable]
  cases hget : (Fields.ofPairs p).get? name with
  | none => rfl
  | some d =>
    refine List.all_eq_true.mpr fun item hitem => ?_
    have hshown := Datum.isShown_of_mem_items? (Fields.isShown_of_get? h hget) item hitem
    cases item with
    | map q => exact Entry.isReadable_of_isShown α hshown
    | _ => rfl

/-- A record all of whose numbers can be written can be read. -/
theorem isReadable_of_isShown (h : (Datum.map p).isShown = true) : isReadable (Fields.ofPairs p) = true := by
  have hperson :
      (((Fields.ofPairs p).get? "personal_info").bind Datum.pairs?).all (Entry.isReadable Person) = true := by
    cases hget : (Fields.ofPairs p).get? "personal_info" with
    | none => rfl
    | some d =>
      cases d with
      | map q => exact Entry.isReadable_of_isShown Person (Fields.isShown_of_get? h hget)
      | _ => rfl
  have htext : ∀ name, ((Fields.ofPairs p).get? name).all Datum.isShown = true := by
    intro name
    cases hget : (Fields.ofPairs p).get? name with
    | none => rfl
    | some d => exact Fields.isShown_of_get? h hget
  simp only [isReadable, hperson, htext, isSectionReadable_of_isShown _ h, Bool.and_true]

theorem areKeysReadable_of_isShown (h : (Datum.map p).isShown = true) : areKeysReadable (.map p) = true :=
  List.all_eq_true.mpr fun pair hpair => (Datum.isShown_of_mem_pairs h pair hpair).1

/-! ### Records -/

/-- Each section of a résumé is made of what is kept of the items of its list. -/
structure KeepsSections (fields : Fields) (r : Resume) : Prop where
  /-- The jobs. -/
  jobs : KeepsSection Job (fields.get? "work_experience") r.jobs
  /-- The courses of study. -/
  studies : KeepsSection Study (fields.get? "education") r.studies
  /-- The skills. -/
  skills : KeepsSection Skill (fields.get? "skills") r.skills
  /-- The projects. -/
  projects : KeepsSection Project (fields.get? "projects") r.projects
  /-- The certificates. -/
  certificates : KeepsSection Certificate (fields.get? "certifications") r.certificates
  /-- The languages. -/
  languages : KeepsSection Language (fields.get? "languages") r.languages
  /-- The voluntary roles. -/
  volunteering : KeepsSection VolunteerRole (fields.get? "volunteer_experience") r.volunteering
  /-- The awards. -/
  awards : KeepsSection Award (fields.get? "awards") r.awards
  /-- The publications. -/
  publications : KeepsSection Publication (fields.get? "publications") r.publications
  /-- The people who give a reference. -/
  referees : KeepsSection Referee (fields.get? "references") r.referees
  /-- The hobbies. -/
  hobbies : KeepsSection Hobby (fields.get? "hobbies") r.hobbies
  /-- The sections of free form. -/
  extras : KeepsSection ExtraSection (fields.get? "additional_sections") r.extras

theorem keepsSections_ofFields (fields : Fields) : KeepsSections fields (ofFields fields) := by
  constructor <;> exact keepsSection_entriesOf fields _

/-- **Only what is no mapping is refused.** A value all of whose numbers can be written is refused
exactly when it is no mapping, and then as such. A mapping is read as a résumé, whatever stands in it:
of each list the mappings and the names are kept, in order, and the rest is dropped; a person that is
neither a mapping nor missing is passed over with one warning, and there is no other. -/
theorem ofRecord_accepts (d : Datum) (h : d.isShown = true) :
    (∀ e, (ofRecord d).1 = .error e ↔ d.pairs? = none ∧ e = .record (.notMapping d.kind)) ∧
      ∀ p, d = .map p → ∃ r log, ofRecord d = (.ok r, log) ∧
        KeepsPerson ((Fields.ofPairs p).get? "personal_info") r.person log ∧
        KeepsSections (Fields.ofPairs p) r := by
  have hmapping : ∀ p, d = .map p →
      ofRecord d = (.ok (ofFields (Fields.ofPairs p)), warnings (Fields.ofPairs p)) := by
    rintro p rfl
    have hread := isReadable_of_isShown h
    simp only [ofRecord, areKeysReadable_of_isShown h, ofDatum?, Datum.pairs?, Option.getD_some, hread]
    rfl
  refine ⟨fun e => ?_, fun p hp => ?_⟩
  · by_cases hp : ∃ p, d = .map p
    · obtain ⟨p, rfl⟩ := hp
      rw [hmapping p rfl]
      refine iff_of_false (fun he => ?_) fun hboth => ?_
      · cases he
      · cases hboth.1
    · have hrefused : d.pairs? = none ∧ (ofRecord d).1 = .error (.record (.notMapping d.kind)) := by
        cases d with
        | map p => exact absurd ⟨p, rfl⟩ hp
        | _ => exact ⟨rfl, rfl⟩
      rw [hrefused.2, Except.error.injEq, eq_comm]
      exact ⟨fun he => ⟨hrefused.1, he⟩, And.right⟩
  · exact ⟨_, _, hmapping p hp, keepsPerson_personOf _, keepsSections_ofFields _⟩

/-- A record with a list for the person, and with a blank text, a name, a truth value and a mapping among the
skills. -/
def untidy : List (Datum × Datum) :=
  [(.text "personalInfo", .list [.null]),
   (.text "skills", .tuple [.text " ", .text "Lean", .bool true, .map [(.text "Name", .text "Proof")]])]

theorem ofRecord_accepts_untidy :
    ∃ r log, ofRecord (.map untidy) = (.ok r, log) ∧ log.length = 1 ∧ r.person = {} ∧
      r.skills = [Entry.ofFields [("name", .text "Lean")], Entry.ofFields [("name", .text "Proof")]] := by
  obtain ⟨r, log, hread, hperson, hsections⟩ := (ofRecord_accepts (.map untidy) (by decide)).2 untidy rfl
  have hlog : log.length = 1 ∧ r.person = {} := by
    generalize hr : r.person = person at hperson
    cases hperson
    exact ⟨rfl, rfl⟩
  have hkept : Keeps Skill [.text " ", .text "Lean", .bool true, .map [(.text "Name", .text "Proof")]]
      [Entry.ofFields [("name", .text "Lean")], Entry.ofFields [("name", .text "Proof")]] :=
    .dropped rfl (fun s hs _ => by rw [← Datum.text.inj hs, ← trim_ne_empty_iff]; decide)
      (.named (by decide) (trim_ne_empty_iff.mp (by decide : trim "Lean" ≠ ""))
        (.dropped rfl (fun _ hs => by cases hs) (.mapping .nil)))
  exact ⟨r, log, hread, hlog.1, hlog.2, ((hsections.skills _).mp hkept).symm⟩

/-- A missing value in place of the person is no mapping either, but there is no warning about it. -/
theorem ofRecord_nullPerson :
    Datum.null.pairs? = none ∧
      ¬ ∃ r warning, ofRecord (.map [(.text "personalInfo", .null)]) = (.ok r, [warning]) := by
  refine ⟨rfl, ?_⟩
  rintro ⟨r, warning, h⟩
  have hlog : (ofRecord (.map [(.text "personalInfo", .null)])).2 = [] := by decide
  rw [h] at hlog
  cases hlog

end Resume

end Vitae
