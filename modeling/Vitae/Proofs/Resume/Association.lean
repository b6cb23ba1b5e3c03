import Mathlib.Data.List.Forall2
import Mathlib.Data.List.Nodup
import Vitae.Proofs.Resume.Lawful

/-!
# What a record carries

The keys of a record may be spelled in several ways and stand in any order, some of them
name no field, and a value may be `null`. What is left is an association of field names
with values (`Fields.carried`). Two records have the same one (`SameRecord`) when what
they carry agrees, up to the associations of the parts that stand in it. A respelling of
keys, a change of order, and a key, a `null` or an overridden value that goes leave the
association alone (`Rewritten.sameFields`, `SameFields.sameRecord`), at the top of the
record as well as inside a part (`sameRecord_inside`).
-/

namespace Vitae

/-! ### The last value under a name -/

namespace Fields

variable {f g : Fields} {name : String} {d : Datum}

theorem get?_append (f g : Fields) (name : String) :
    get? (f ++ g) name = (get? g name).or (get? f name) := by
  induction f with
  | nil => simp [get?]
  | cons p f ih =>
    rw [List.cons_append, get?, get?, ih, Option.or_assoc]

theorem get?_eq_none_iff : get? f name = none ↔ ∀ p ∈ f, p.1 ≠ name := by
  induction f with
  | nil => simp [get?]
  | cons p f ih =>
    rw [get?, Option.or_eq_none_iff, ih, List.forall_mem_cons, and_comm]
    simp

theorem mem_of_get? (h : get? f name = some d) : (name, d) ∈ f := by
  induction f with
  | nil => simp [get?] at h
  | cons p f ih =>
    rw [get?, Option.or_eq_some_iff] at h
    rcases h with h | ⟨-, h⟩
    · exact List.mem_cons_of_mem p (ih h)
    · obtain ⟨rfl, rfl⟩ : p.1 = name ∧ p.2 = d := by simpa using h
      exact List.mem_cons_self

/-- With one value for each name, it is found wherever it stands. -/
theorem get?_eq_some_iff (hnodup : (f.map Prod.fst).Nodup) : get? f name = some d ↔ (name, d) ∈ f := by
  refine ⟨mem_of_get?, fun hmem => ?_⟩
  cases hget : get? f name with
  | none => exact absurd rfl (get?_eq_none_iff.mp hget _ hmem)
  | some e => rw [(Prod.mk.inj (List.inj_on_of_nodup_map hnodup (mem_of_get? hget) hmem rfl)).2]

theorem get?_of_perm (h : f.Perm g) (hnodup : (f.map Prod.fst).Nodup) : get? f name = get? g name := by
  have hnodup' : (g.map Prod.fst).Nodup := (h.map Prod.fst).nodup_iff.mp hnodup
  apply Option.ext
  intro d
  rw [get?_eq_some_iff hnodup, get?_eq_some_iff hnodup', h.mem_iff]

end Fields

/-! ### Associations -/

/-- The name that a key stands for. -/
def nameOf (pair : Datum × Datum) : String := snakeCase pair.1.plain

/-- Two mappings with the same association: they carry the same under every one of the names. -/
def SameFields (names : List String) (p q : List (Datum × Datum)) : Prop :=
  ∀ name ∈ names, (Fields.ofPairs p).carried name = (Fields.ofPairs q).carried name

/-- The ways in which a mapping can be rewritten without a change of its association. -/
inductive Rewritten (names : List String) : List (Datum × Datum) → List (Datum × Datum) → Prop where
  /-- A key is spelled in another way. -/
  | respell {p q : List (Datum × Datum)} {k l d : Datum} (h : nameOf (k, d) = nameOf (l, d)) :
    Rewritten names (p ++ (k, d) :: q) (p ++ (l, d) :: q)
  /-- Pairs that all have names of their own change places. -/
  | reorder {p q : List (Datum × Datum)} (h : p.Perm q) (hnodup : (p.map nameOf).Nodup) :
    Rewritten names p q
  /-- A value goes that a later one overrides. -/
  | override {p q : List (Datum × Datum)} {pair : Datum × Datum} (h : ∃ r ∈ q, nameOf r = nameOf pair) :
    Rewritten names (p ++ pair :: q) (p ++ q)
  /-- A key goes that names no field. -/
  | unknown {p q : List (Datum × Datum)} {pair : Datum × Datum} (h : nameOf pair ∉ names) :
    Rewritten names (p ++ pair :: q) (p ++ q)
  /-- A `null` goes. -/
  | null {p q : List (Datum × Datum)} {k : Datum} (h : ∀ r ∈ p ++ q, nameOf r ≠ nameOf (k, .null)) :
    Rewritten names (p ++ (k, .null) :: q) (p ++ q)
  /-- A rewriting is taken back. -/
  | symm {p q : List (Datum × Datum)} (h : Rewritten names p q) : Rewritten names q p
  /-- One rewriting after another. -/
  | trans {p q r : List (Datum × Datum)} (h : Rewritten names p q) (h' : Rewritten names q r) :
    Rewritten names p r

theorem Fields.get?_ofPairs_append (p q : List (Datum × Datum)) (name : String) :
    get? (ofPairs (p ++ q)) name = (get? (ofPairs q) name).or (get? (ofPairs p) name) := by
  rw [ofPairs, List.map_append, get?_append]
  rfl

theorem Fields.get?_ofPairs_cons (pair : Datum × Datum) (q : List (Datum × Datum)) (name : String) :
    get? (ofPairs (pair :: q)) name =
      (get? (ofPairs q) name).or (if nameOf pair = name then some pair.2 else none) := rfl

theorem Fields.get?_ofPairs_eq_none_iff {p : List (Datum × Datum)} {name : String} :
    get? (ofPairs p) name = none ↔ ∀ r ∈ p, nameOf r ≠ name := by
  rw [get?_eq_none_iff, ofPairs, List.forall_mem_map]
  rfl

/-- No rewriting changes the association. -/
theorem Rewritten.sameFields {names : List String} {p q : List (Datum × Datum)} (h : Rewritten names p q) :
    SameFields names p q := by
  intro name hname
  induction h with
  | respell h =>
    simp only [Fields.carried, Fields.get?_ofPairs_append, Fields.get?_ofPairs_cons, h]
  | @reorder p q h hnodup =>
    have hget : (Fields.ofPairs p).get? name = (Fields.ofPairs q).get? name := by
      refine Fields.get?_of_perm (h.map _) ?_
      rw [Fields.ofPairs, List.map_map]
      exact hnodup
    rw [Fields.carried, Fields.carried, hget]
  | @override p q pair h =>
    simp only [Fields.carried, Fields.get?_ofPairs_append, Fields.get?_ofPairs_cons]
    by_cases hpair : nameOf pair = name
    · obtain ⟨r, hr, hname'⟩ := h
      have hlater : (Fields.ofPairs q).get? name ≠ none := fun hnone =>
        Fields.get?_ofPairs_eq_none_iff.mp hnone r hr (hname'.trans hpair)
      obtain ⟨d, hd⟩ := Option.ne_none_iff_exists'.mp hlater
      rw [hd, Option.some_or, Option.some_or]
    · rw [if_neg hpair, Option.or_none]
  | @unknown p q pair h =>
    have hne : nameOf pair ≠ name := by
      rintro rfl
      exact h hname
    simp only [Fields.carried, Fields.get?_ofPairs_append, Fields.get?_ofPairs_cons, if_neg hne, Option.or_none]
  | @null p q k h =>
    by_cases hpair : nameOf (k, .null) = name
    · have hnone : (Fields.ofPairs (p ++ q)).get? name = none :=
        Fields.get?_ofPairs_eq_none_iff.mpr fun r hr heq => h r hr (heq.trans hpair.symm)
      have hboth := hnone
      rw [Fields.get?_ofPairs_append, Option.or_eq_none_iff] at hboth
      rw [Fields.carried, Fields.carried, hnone, Fields.get?_ofPairs_append, Fields.get?_ofPairs_cons,
        hboth.1, hboth.2, if_pos hpair]
      rfl
    · simp only [Fields.carried, Fields.get?_ofPairs_append, Fields.get?_ofPairs_cons, if_neg hpair,
        Option.or_none]
  | symm _ ih => exact ih.symm
  | trans _ _ ih ih' => exact ih.trans ih'

/-! ### Records with the same association -/

/-- What the fields of a kind of part are called, and those of them that are made of texts. -/
structure Naming where
  /-- The names of all fields. -/
  names : List String
  /-- The names of the fields whose values are turned into texts. -/
  textNames : List String
  /-- They are names of fields. -/
  textNames_subset : textNames ⊆ names

/-- The naming of a kind of part. -/
def Naming.of (α : Type) [Entry α] : Naming where
  names := Entry.fieldNames α
  textNames := Entry.textNames α
  textNames_subset := by
    intro name hname
    obtain ⟨field, hfield, heq⟩ := List.mem_filterMap.mp hname
    refine List.mem_map.mpr ⟨field, hfield, ?_⟩
    split at heq
    · cases heq
    · exact Option.some.inj heq

/-- What a record holds under a name. -/
inductive Shape where
  /-- A text. -/
  | text
  /-- A part. -/
  | part (naming : Naming)
  /-- A list of parts. -/
  | parts (naming : Naming)

/-- The fields of a record. -/
def Resume.shapes : List (String × Shape) :=
  [("personal_info", .part (.of Person)),
   ("professional_summary", .text),
   ("work_experience", .parts (.of Job)),
   ("education", .parts (.of Study)),
   ("skills", .parts (.of Skill)),
   ("projects", .parts (.of Project)),
   ("certifications", .parts (.of Certificate)),
   ("languages", .parts (.of Language)),
   ("volunteer_experience", .parts (.of VolunteerRole)),
   ("awards", .parts (.of Award)),
   ("publications", .parts (.of Publication)),
   ("references", .parts (.of Referee)),
   ("hobbies", .parts (.of Hobby)),
   ("additional_sections", .parts (.of ExtraSection)),
   ("tracking_url", .text)]

/-- Two values that are the same where a part is expected: equal, or mappings with the same
association. -/
inductive Naming.Same (naming : Naming) : Datum → Datum → Prop where
  /-- A value is the same as itself. -/
  | refl (d : Datum) : naming.Same d d
  /-- Mappings with the same association. -/
  | map {p q : List (Datum × Datum)} (h : SameFields naming.names p q) : naming.Same (.map p) (.map q)

/-- Two values that are the same where parts are expected: equal, or lists of values that are the same
where a part is expected. -/
inductive Naming.SameItems (naming : Naming) : Datum → Datum → Prop where
  /-- A value is the same as itself. -/
  | refl (d : Datum) : naming.SameItems d d
  /-- Lists whose items are the same. -/
  | list {xs ys : List Datum} (h : List.Forall₂ naming.Same xs ys) : naming.SameItems (.list xs) (.list ys)
  /-- Lists of fixed length whose items are the same. -/
  | tuple {xs ys : List Datum} (h : List.Forall₂ naming.Same xs ys) : naming.SameItems (.tuple xs) (.tuple ys)

/-- Two values that are the same for a field of a record. -/
def Shape.Same : Shape → Datum → Datum → Prop
  | .text => Eq
  | .part naming => naming.Same
  | .parts naming => naming.SameItems

/-- Two records with the same association: under the name of each field they carry nothing, or values
that are the same there. -/
def SameRecord (p q : List (Datum × Datum)) : Prop :=
  ∀ field ∈ Resume.shapes,
    Option.Rel field.2.Same ((Fields.ofPairs p).carried field.1) ((Fields.ofPairs q).carried field.1)

theorem Shape.same_refl (shape : Shape) (d : Datum) : shape.Same d d := by
  cases shape with
  | text => exact rfl
  | part naming => exact .refl d
  | parts naming => exact .refl d

theorem Shape.rel_refl (shape : Shape) (value : Option Datum) : Option.Rel shape.Same value value := by
  cases value with
  | none => exact .none
  | some d => exact .some (shape.same_refl d)

/-- Values that are the same are both present or both `null`. -/
theorem Shape.Same.rel {shape : Shape} {d e : Datum} (h : shape.Same d e) :
    Option.Rel shape.Same d.present? e.present? := by
  cases shape with
  | text =>
    rw [show d = e from h]
    exact Shape.rel_refl _ _
  | part naming =>
    cases h with
    | refl => exact Shape.rel_refl _ _
    | map h => exact .some (.map h)
  | parts naming =>
    cases h with
    | refl => exact Shape.rel_refl _ _
    | list h => exact .some (.list h)
    | tuple h => exact .some (.tuple h)

/-- Mappings with the same association are records with the same one. -/
theorem SameFields.sameRecord {p q : List (Datum × Datum)}
    (h : SameFields (Resume.shapes.map Prod.fst) p q) : SameRecord p q := by
  intro field hfield
  rw [h field.1 (List.mem_map_of_mem hfield)]
  exact field.2.rel_refl _

/-- What is rewritten in a value does not change the association of the record. -/
theorem sameRecord_inside (before after : List (Datum × Datum)) {key d e : Datum}
    (h : ∀ shape, (nameOf (key, d), shape) ∈ Resume.shapes → shape.Same d e) :
    SameRecord (before ++ (key, d) :: after) (before ++ (key, e) :: after) := by
  rintro ⟨name, shape⟩ hfield
  simp only [Fields.carried, Fields.get?_ofPairs_append, Fields.get?_ofPairs_cons]
  cases hlater : (Fields.ofPairs after).get? name with
  | some later => exact Shape.rel_refl shape _
  | none =>
    by_cases hname : nameOf (key, d) = name
    · subst hname
      simpa [nameOf] using (h shape hfield).rel
    · have hname' : nameOf (key, e) ≠ name := hname
      rw [if_neg hname, if_neg hname']
      exact Shape.rel_refl shape _

end Vitae
