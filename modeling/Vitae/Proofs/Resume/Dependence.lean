import Vitae.Proofs.Resume.Association
import Vitae.Resume.Record

/-!
# What a résumé depends on

Records with the same association are read as the same résumé, with the same warnings
(`ofDatum?_congr`). A number that is too long to have a text is the exception: a part
turns all its values into texts, also one that a later key overrides, while the record
itself only looks at what it carries. So a part can hide such a number
(`Naming.HidesNumber`), and a record with such a part is refused, whatever it carries.
-/

namespace Vitae

/-! ### Reading records with the same association -/

section Parts

variable {α : Type} [Entry α] [LawfulEntry α] {d e : Datum}

theorem ofItem?_congr (h : (Naming.of α).Same d e) : (Entry.ofItem? d : Option α) = Entry.ofItem? e := by
  cases h with
  | refl => rfl
  | map h =>
    rw [Entry.ofItem?, Entry.ofItem?, LawfulEntry.ofFields_congr _ _ h]

theorem filterMap_ofItem?_congr {xs ys : List Datum} (h : List.Forall₂ (Naming.of α).Same xs ys) :
    (xs.filterMap Entry.ofItem? : List α) = ys.filterMap Entry.ofItem? := by
  induction h with
  | nil => rfl
  | cons hitem _ ih =>
    rw [List.filterMap_cons, List.filterMap_cons, ofItem?_congr hitem, ih]

theorem ofList_congr (h : (Naming.of α).SameItems d e) : Entry.ofList α d = Entry.ofList α e := by
  cases h with
  | refl => rfl
  | list h => exact filterMap_ofItem?_congr h
  | tuple h => exact filterMap_ofItem?_congr h

end Parts

namespace Resume

variable {f g : Fields} {name : String}

theorem entriesOf_eq_carried (α : Type) [Entry α] (f : Fields) (name : String) :
    entriesOf α f name = (f.carried name).elim [] (Entry.ofList α) :=
  f.apply_carried name (·.elim [] (Entry.ofList α)) rfl

/-- A section depends on what the record carries under its name. -/
theorem entriesOf_congr {α : Type} [Entry α] [LawfulEntry α]
    (h : Option.Rel (Naming.of α).SameItems (f.carried name) (g.carried name)) :
    entriesOf α f name = entriesOf α g name := by
  rw [entriesOf_eq_carried, entriesOf_eq_carried]
  generalize f.carried name = a, g.carried name = b at h
  cases h with
  | none => rfl
  | some h => exact ofList_congr h

theorem text_congr (h : Option.Rel Eq (f.carried name) (g.carried name)) : f.text name = g.text name := by
  rw [Fields.text_eq_carried, Fields.text_eq_carried]
  generalize f.carried name = a, g.carried name = b at h
  cases h with
  | none => rfl
  | some h => rw [h]

theorem personOf_eq_carried (f : Fields) :
    personOf f = ((f.carried "personal_info").bind Entry.ofItem?).getD {} := by
  unfold personOf Fields.carried
  cases f.get? "personal_info" with
  | none => rfl
  | some d =>
    cases d with
    | text s =>
      have hnone : (Entry.ofItem? (.text s) : Option Person) = none := by
        rw [Entry.ofItem?]
        split <;> rfl
      have hpresent : (Datum.text s).present? = some (.text s) := rfl
      rw [Option.bind_some, hpresent, Option.bind_some, hnone]
      rfl
    | _ => rfl

/-- The person depends on what the record carries under its name, and so does the warning. -/
theorem person_congr
    (h : Option.Rel (Naming.of Person).Same (f.carried "personal_info") (g.carried "personal_info")) :
    personOf f = personOf g := by
  rw [personOf_eq_carried, personOf_eq_carried]
  generalize f.carried "personal_info" = a, g.carried "personal_info" = b at h
  cases h with
  | none => rfl
  | some h => rw [Option.bind_some, Option.bind_some, ofItem?_congr h]

/-- The warning about what a record carries for the person. -/
def personWarning : Datum → Log
  | .map _ => []
  | d => [.template .warning ("Ignoring personalInfo of type " ++ d.kind ++ "; expected a mapping")]

theorem warnings_eq_carried (f : Fields) :
    warnings f = (f.carried "personal_info").elim [] personWarning := by
  unfold warnings Fields.carried
  cases f.get? "personal_info" with
  | none => rfl
  | some d => cases d <;> rfl

theorem warnings_congr
    (h : Option.Rel (Naming.of Person).Same (f.carried "personal_info") (g.carried "personal_info")) :
    warnings f = warnings g := by
  rw [warnings_eq_carried, warnings_eq_carried]
  generalize f.carried "personal_info" = a, g.carried "personal_info" = b at h
  cases h with
  | none => rfl
  | some h =>
    cases h with
    | refl => rfl
    | map => rfl

/-- Records with the same association are the same résumé, with the same warnings. -/
theorem ofDatum?_congr {p q : List (Datum × Datum)} (h : SameRecord p q) :
    ofDatum? (.map p) = ofDatum? (.map q) := by
  simp only [SameRecord, shapes, List.forall_mem_cons] at h
  obtain ⟨hperson, hsummary, hjobs, hstudies, hskills, hprojects, hcertificates, hlanguages,
    hvolunteering, hawards, hpublications, hreferees, hhobbies, hextras, htracking, -⟩ := h
  rw [ofDatum?, ofDatum?, warnings_congr hperson, ofFields, ofFields, person_congr hperson,
    text_congr hsummary, entriesOf_congr hjobs, entriesOf_congr hstudies, entriesOf_congr hskills,
    entriesOf_congr hprojects, entriesOf_congr hcertificates, entriesOf_congr hlanguages,
    entriesOf_congr hvolunteering, entriesOf_congr hawards, entriesOf_congr hpublications,
    entriesOf_congr hreferees, entriesOf_congr hhobbies, entriesOf_congr hextras, text_congr htracking]

end Resume

/-! ### Numbers that are too long -/

/-- Whether what a mapping carries in text fields has a text. -/
def Naming.IsShown (naming : Naming) (p : List (Datum × Datum)) : Prop :=
  ∀ name ∈ naming.textNames, ∀ d ∈ (Fields.ofPairs p).carried name, d.isShown = true

/-- A mapping has a number that is too long to have a text where its association does not show it: in a
key, or in the value of a text field that a later pair overrides. -/
def Naming.HidesNumber (naming : Naming) (p : List (Datum × Datum)) : Prop :=
  (∃ pair ∈ p, pair.1.isShown = false) ∨
    ∃ before pair after, p = before ++ pair :: after ∧ nameOf pair ∈ naming.textNames ∧
      pair.2.isShown = false ∧ ∃ later ∈ after, nameOf later = nameOf pair

/-- Whether it has depends on the association. -/
theorem SameFields.isShown_iff {naming : Naming} {p q : List (Datum × Datum)}
    (h : SameFields naming.names p q) : naming.IsShown p ↔ naming.IsShown q := by
  unfold Naming.IsShown
  exact forall₂_congr fun name hname => by rw [h name (naming.textNames_subset hname)]

/-- A value without a text is carried, unless it is overridden. -/
theorem carried_of_not_isShown (before : List (Datum × Datum)) {after : List (Datum × Datum)}
    {pair : Datum × Datum} (hshown : pair.2.isShown = false)
    (hlast : ∀ later ∈ after, nameOf later ≠ nameOf pair) :
    (Fields.ofPairs (before ++ pair :: after)).carried (nameOf pair) = some pair.2 := by
  rw [Fields.carried, Fields.get?_ofPairs_append, Fields.get?_ofPairs_cons,
    Fields.get?_ofPairs_eq_none_iff.mpr hlast, if_pos rfl, Option.none_or, Option.some_or, Option.bind_some]
  cases hvalue : pair.2 with
  | null => rw [hvalue] at hshown; exact absurd hshown (by decide)
  | _ => rfl

/-- What is carried stands in the mapping. -/
theorem exists_of_carried {p : List (Datum × Datum)} {name : String} {d : Datum}
    (h : (Fields.ofPairs p).carried name = some d) : ∃ pair ∈ p, nameOf pair = name ∧ pair.2 = d := by
  obtain ⟨e, hget, hpresent⟩ := Option.bind_eq_some_iff.mp h
  obtain ⟨pair, hpair, heq⟩ := List.mem_map.mp (Fields.mem_of_get? hget)
  obtain ⟨hname, hvalue⟩ := Prod.mk.inj heq
  refine ⟨pair, hpair, hname, ?_⟩
  cases e with
  | null => cases hpresent
  | _ => exact hvalue.trans (Option.some.inj hpresent)

/-- A part can be read when what it carries in text fields has a text, and it hides no number. -/
theorem isReadable_iff {α : Type} [Entry α] {p : List (Datum × Datum)} :
    Entry.isReadable α p = true ↔ (Naming.of α).IsShown p ∧ ¬ (Naming.of α).HidesNumber p := by
  have hread : Entry.isReadable α p = true ↔ ∀ pair ∈ p, pair.1.isShown = true ∧
      (nameOf pair ∈ Entry.textNames α → pair.2.isShown = true) := by
    simp only [Entry.isReadable, List.all_eq_true, Bool.and_eq_true, Bool.or_eq_true, Bool.not_eq_true',
      List.contains_eq_mem, decide_eq_false_iff_not, imp_iff_not_or]
    rfl
  rw [hread]
  constructor
  · intro h
    refine ⟨fun name hname d hd => ?_, ?_⟩
    · obtain ⟨pair, hpair, rfl, rfl⟩ := exists_of_carried hd
      exact (h pair hpair).2 hname
    · rintro (⟨pair, hpair, hkey⟩ | ⟨before, pair, after, rfl, hname, hvalue, -⟩)
      · exact absurd (h pair hpair).1 (by rw [hkey]; decide)
      · exact absurd ((h pair (by simp)).2 hname) (by rw [hvalue]; decide)
  · rintro ⟨hshown, hhides⟩ pair hpair
    refine ⟨?_, fun hname => ?_⟩
    · by_contra hkey
      exact hhides (.inl ⟨pair, hpair, by simpa using hkey⟩)
    · by_contra hvalue
      have hvalue : pair.2.isShown = false := by simpa using hvalue
      obtain ⟨before, after, rfl⟩ := List.append_of_mem hpair
      by_cases hlater : ∃ later ∈ after, nameOf later = nameOf pair
      · exact hhides (.inr ⟨before, pair, after, rfl, hname, hvalue, hlater⟩)
      · have hcarried := carried_of_not_isShown before hvalue fun later hmem heq =>
          hlater ⟨later, hmem, heq⟩
        exact absurd (hshown _ hname _ hcarried) (by rw [hvalue]; decide)

namespace Shape

/-- Whether what a field of a record carries has a text, as far as it is turned into one. -/
def IsShown : Shape → Datum → Prop
  | .text, d => d.isShown = true
  | .part naming, d => ∀ p, d = .map p → naming.IsShown p
  | .parts naming, d => ∀ p, .map p ∈ d.items?.getD [] → naming.IsShown p

/-- Whether a part in what a field of a record carries hides a number. -/
def HidesNumber : Shape → Datum → Prop
  | .text, _ => False
  | .part naming, d => ∃ p, d = .map p ∧ naming.HidesNumber p
  | .parts naming, d => ∃ p, .map p ∈ d.items?.getD [] ∧ naming.HidesNumber p

end Shape

namespace Resume

/-- Whether everything that a record carries has a text, as far as it is turned into one. -/
def IsShown (p : List (Datum × Datum)) : Prop :=
  ∀ field ∈ shapes, ∀ d ∈ (Fields.ofPairs p).carried field.1, field.2.IsShown d

/-- A part of a record hides a number that is too long to have a text. -/
def HidesNumber (p : List (Datum × Datum)) : Prop :=
  ∃ field ∈ shapes, ∃ d ∈ (Fields.ofPairs p).carried field.1, field.2.HidesNumber d

variable {f : Fields} {name : String}

/-- A section can be read when its parts can be read. -/
theorem isSectionReadable_iff {α : Type} [Entry α] :
    isSectionReadable α f name = true ↔
      ∀ d ∈ f.carried name, (Shape.parts (.of α)).IsShown d ∧ ¬ (Shape.parts (.of α)).HidesNumber d := by
  have hitems : ((f.get? name).bind Datum.items?).getD [] = ((f.carried name).bind Datum.items?).getD [] :=
    f.apply_carried name (fun value => (value.bind Datum.items?).getD []) rfl
  have hparts : ∀ items : List Datum,
      (items.all fun item => match item with
        | .map p => Entry.isReadable α p
        | _ => true) = true ↔ ∀ p, .map p ∈ items → Entry.isReadable α p = true := by
    intro items
    rw [List.all_eq_true]
    refine ⟨fun h p hp => h (.map p) hp, fun h item hitem => ?_⟩
    cases item with
    | map p => exact h p hitem
    | _ => rfl
  rw [isSectionReadable, hitems]
  refine (hparts _).trans ?_
  cases f.carried name with
  | none => simp
  | some d =>
    simp only [Option.bind_some, isReadable_iff, Option.mem_some_iff, forall_eq', Shape.IsShown,
      Shape.HidesNumber, not_exists, not_and]
    exact ⟨fun h => ⟨fun p hp => (h p hp).1, fun p hp => (h p hp).2⟩,
      fun h p hp => ⟨h.1 p hp, h.2 p hp⟩⟩

/-- The person can be read when the part can be read. -/
theorem isPersonReadable_iff :
    ((f.get? name).bind Datum.pairs?).all (Entry.isReadable Person) = true ↔
      ∀ d ∈ f.carried name, (Shape.part (.of Person)).IsShown d ∧ ¬ (Shape.part (.of Person)).HidesNumber d := by
  have hpairs : (f.get? name).bind Datum.pairs? = (f.carried name).bind Datum.pairs? :=
    f.apply_carried name (·.bind Datum.pairs?) rfl
  rw [hpairs]
  cases f.carried name with
  | none => simp
  | some d => cases d <;> simp [Shape.IsShown, Shape.HidesNumber, Datum.pairs?, isReadable_iff]

/-- A text can be read when it has a text. -/
theorem isTextReadable_iff :
    (f.get? name).all Datum.isShown = true ↔
      ∀ d ∈ f.carried name, Shape.text.IsShown d ∧ ¬ Shape.text.HidesNumber d := by
  have hall : (f.get? name).all Datum.isShown = (f.carried name).all Datum.isShown :=
    f.apply_carried name (·.all Datum.isShown) rfl
  rw [hall]
  cases f.carried name with
  | none => simp
  | some d => simp [Shape.IsShown, Shape.HidesNumber]

/-- A record can be read when what it carries has a text and no part of it hides a number. -/
theorem isReadable_ofPairs_iff {p : List (Datum × Datum)} :
    isReadable (Fields.ofPairs p) = true ↔ IsShown p ∧ ¬ HidesNumber p := by
  have hfields : isReadable (Fields.ofPairs p) = true ↔ ∀ field ∈ shapes,
      ∀ d ∈ (Fields.ofPairs p).carried field.1, field.2.IsShown d ∧ ¬ field.2.HidesNumber d := by
    simp only [isReadable, shapes, Bool.and_eq_true, isPersonReadable_iff, isTextReadable_iff,
      isSectionReadable_iff, List.forall_mem_cons]
    tauto
  rw [hfields]
  constructor
  · intro h
    refine ⟨fun field hfield d hd => (h field hfield d hd).1, ?_⟩
    rintro ⟨field, hfield, d, hd, hhides⟩
    exact (h field hfield d hd).2 hhides
  · rintro ⟨hshown, hhides⟩ field hfield d hd
    exact ⟨hshown field hfield d hd, fun hhidden => hhides ⟨field, hfield, d, hd, hhidden⟩⟩

end Resume

namespace Shape

variable {naming : Naming} {d e : Datum}

theorem isShown_congr_part (h : naming.Same d e) :
    (Shape.part naming).IsShown d ↔ (Shape.part naming).IsShown e := by
  cases h with
  | refl => rfl
  | map h =>
    simp only [IsShown, Datum.map.injEq, forall_eq']
    exact h.isShown_iff

theorem isShown_congr_parts {xs ys : List Datum} (h : List.Forall₂ naming.Same xs ys) :
    (∀ p, .map p ∈ xs → naming.IsShown p) ↔ ∀ p, .map p ∈ ys → naming.IsShown p := by
  induction h with
  | nil => rfl
  | @cons x y xs ys h _ ih =>
    have hitem := isShown_congr_part h
    simp only [List.mem_cons, or_imp, forall_and, ih]
    refine and_congr_left fun _ => ?_
    exact (forall_congr' fun p => by rw [eq_comm]).trans (hitem.trans (forall_congr' fun p => by rw [eq_comm]))

/-- Whether what a field carries has a text depends on the associations in it. -/
theorem Same.isShown_iff {shape : Shape} (h : shape.Same d e) : shape.IsShown d ↔ shape.IsShown e := by
  cases shape with
  | text => rw [show d = e from h]
  | part naming => exact isShown_congr_part h
  | parts naming =>
    cases h with
    | refl => rfl
    | list h => exact isShown_congr_parts h
    | tuple h => exact isShown_congr_parts h

end Shape

namespace Resume

variable {p q : List (Datum × Datum)}

/-- Whether what a record carries has a text depends on its association. -/
theorem isShown_congr (h : SameRecord p q) : IsShown p ↔ IsShown q := by
  refine forall₂_congr fun field hfield => ?_
  have hfield := h field hfield
  generalize (Fields.ofPairs p).carried field.1 = a, (Fields.ofPairs q).carried field.1 = b at hfield
  cases hfield with
  | none => rfl
  | some h => simpa using h.isShown_iff

/-- A record is read when all that it carries has a text and it hides no number, and is refused
otherwise. -/
theorem ofRecord_cases (hkeys : areKeysReadable (.map p) = true) :
    (IsShown p ∧ ¬ HidesNumber p ∧
      ofRecord (.map p) = (.ok (ofFields (Fields.ofPairs p)), warnings (Fields.ofPairs p))) ∨
    (¬ (IsShown p ∧ ¬ HidesNumber p) ∧
      ofRecord (.map p) = (.error .numberTooLong, warnings (Fields.ofPairs p))) := by
  have hread : ofRecord (.map p) = if isReadable (Fields.ofPairs p)
      then (.ok (ofFields (Fields.ofPairs p)), warnings (Fields.ofPairs p))
      else (.error .numberTooLong, warnings (Fields.ofPairs p)) := by
    rw [ofRecord, hkeys]
    rfl
  by_cases hreadable : isReadable (Fields.ofPairs p) = true
  · obtain ⟨hshown, hhides⟩ := isReadable_ofPairs_iff.mp hreadable
    exact .inl ⟨hshown, hhides, by rw [hread, if_pos hreadable]⟩
  · exact .inr ⟨fun h => hreadable (isReadable_ofPairs_iff.mpr h), by rw [hread, if_neg hreadable]⟩

/-- **What a record depends on.** Records with the same association, all of whose keys have a text, are
the same résumé with the same warnings. But a record that hides a number is refused, whatever it
carries. So two such records have the same answer exactly when both of them hide a number or neither
does, or else what they carry has itself no text. No respelling of keys, no change of order, and no
key or `null` that goes changes the association. -/
theorem ofRecord_depends_on_association (h : SameRecord p q) (hp : areKeysReadable (.map p) = true)
    (hq : areKeysReadable (.map q) = true) :
    ofDatum? (.map p) = ofDatum? (.map q) ∧
      (HidesNumber p → (ofRecord (.map p)).1 = .error .numberTooLong) ∧
      (ofRecord (.map p) = ofRecord (.map q) ↔ (HidesNumber p ↔ HidesNumber q) ∨ ¬ IsShown p) ∧
      ∀ r, Rewritten (shapes.map Prod.fst) p r → SameRecord p r := by
  have hread := ofDatum?_congr h
  obtain ⟨hresume, hwarnings⟩ := Prod.mk.inj (Except.ok.inj hread)
  have hshown := isShown_congr h
  refine ⟨hread, fun hhides => ?_, ?_, fun r hr => hr.sameFields.sameRecord⟩
  · rcases ofRecord_cases hp with ⟨-, hnot, -⟩ | ⟨-, hanswer⟩
    · exact absurd hhides hnot
    · rw [hanswer]
  · rcases ofRecord_cases hp with ⟨hshownp, hhidesp, hanswerp⟩ | ⟨hnotp, hanswerp⟩ <;>
      rcases ofRecord_cases hq with ⟨hshownq, hhidesq, hanswerq⟩ | ⟨hnotq, hanswerq⟩
    · refine iff_of_true ?_ (.inl (iff_of_false hhidesp hhidesq))
      rw [hanswerp, hanswerq, hresume, hwarnings]
    · refine iff_of_false ?_ ?_
      · rw [hanswerp, hanswerq]
        simp
      · tauto
    · refine iff_of_false ?_ ?_
      · rw [hanswerp, hanswerq]
        simp
      · tauto
    · refine iff_of_true ?_ ?_
      · rw [hanswerp, hanswerq, hwarnings]
      · tauto

/-- A skill whose name is given twice, first by a number that is too long. -/
def twiceNamed : List (Datum × Datum) := [(.text "Name", .int Datum.tooLong), (.text "name", .text "Lean")]

/-- A skill whose name is given once. -/
def onceNamed : List (Datum × Datum) := [(.text "name", .text "Lean")]

/-- A record of one skill. -/
def recordOfSkill (skill : List (Datum × Datum)) : List (Datum × Datum) :=
  [(.text "skills", .list [.map skill])]

theorem sameRecord_named : SameRecord (recordOfSkill twiceNamed) (recordOfSkill onceNamed) := by
  refine sameRecord_inside [] [] fun shape hshape => ?_
  have hname : nameOf (.text "skills", .list [.map twiceNamed]) = "skills" := by decide
  rw [hname] at hshape
  obtain rfl : shape = .parts (.of Skill) := by simpa [shapes] using hshape
  have hskill : SameFields (Naming.of Skill).names twiceNamed onceNamed :=
    Rewritten.sameFields (.override (p := []) ⟨(.text "name", .text "Lean"), by simp, by decide⟩)
  exact .list (.cons (.map hskill) .nil)

theorem isShown_tooLong : (Datum.int Datum.tooLong).isShown = false := by
  rw [Datum.isShown, Int.natAbs_natCast]
  exact decide_eq_false (Nat.lt_irrefl _)

theorem hidesNumber_twiceNamed : HidesNumber (recordOfSkill twiceNamed) := by
  have hskill : (Naming.of Skill).HidesNumber twiceNamed :=
    .inr ⟨[], (.text "Name", .int Datum.tooLong), [(.text "name", .text "Lean")], rfl, by decide,
      isShown_tooLong, _, List.mem_singleton_self _, by decide⟩
  exact ⟨("skills", .parts (.of Skill)), by simp [shapes], .list [.map twiceNamed], rfl, twiceNamed,
    List.mem_singleton_self _, hskill⟩

theorem ofRecord_depends_on_association_named :
    ofDatum? (.map (recordOfSkill twiceNamed)) = ofDatum? (.map (recordOfSkill onceNamed)) ∧
      (ofRecord (.map (recordOfSkill twiceNamed))).1 = .error .numberTooLong := by
  obtain ⟨hsame, hrefused, -⟩ := ofRecord_depends_on_association sameRecord_named (by decide) (by decide)
  exact ⟨hsame, hrefused hidesNumber_twiceNamed⟩

/-- The two records of the skill have the same association, but only one of them is refused. -/
theorem ofRecord_twiceNamed_ne :
    SameRecord (recordOfSkill twiceNamed) (recordOfSkill onceNamed) ∧
      areKeysReadable (.map (recordOfSkill twiceNamed)) = true ∧
      ofRecord (.map (recordOfSkill onceNamed)) = (.ok { skills := [{ name := some "Lean" }] }, []) ∧
      ofRecord (.map (recordOfSkill twiceNamed)) ≠ ofRecord (.map (recordOfSkill onceNamed)) := by
  have hkeys : areKeysReadable (.map (recordOfSkill twiceNamed)) = true := by decide
  have honce : ofRecord (.map (recordOfSkill onceNamed)) =
      (.ok { skills := [{ name := some "Lean" }] }, []) := by decide
  refine ⟨sameRecord_named, hkeys, honce, ?_⟩
  rcases ofRecord_cases hkeys with ⟨-, hnot, -⟩ | ⟨-, htwice⟩
  · exact absurd hidesNumber_twiceNamed hnot
  · rw [htwice, honce]
    simp

end Resume

end Vitae
