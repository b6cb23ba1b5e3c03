import Vitae.Resume

/-!
# Parts and their fields

What a kind of part has to do with its own fields. A part is read from what the fields of
the kind carry, and from nothing else: a missing value and one that is `null` carry the
same, which is nothing (`Fields.carried`). And the fields that a part is written as are
read back as that part. Each kind of part has these laws (`LawfulEntry`).
-/

namespace Vitae

open Calendar

/-! ### What fields carry -/

/-- A value that is present. -/
def Datum.present? : Datum → Option Datum
  | .null => none
  | d => some d

/-- What the fields carry under a name: the last value there, unless it is `null`. -/
def Fields.carried (fields : Fields) (name : String) : Option Datum :=
  (fields.get? name).bind Datum.present?

namespace Fields

variable (fields : Fields) (name : String)

/-- What does not tell a missing value from a `null` depends on what the fields carry. -/
theorem apply_carried {β : Type} (k : Option Datum → β) (hnull : k (some .null) = k none) :
    k (fields.get? name) = k (fields.carried name) := by
  unfold carried
  cases fields.get? name with
  | none => rfl
  | some d =>
    cases d with
    | null => exact hnull
    | _ => rfl

theorem text_eq_carried : fields.text name = (fields.carried name).bind Datum.toText? :=
  fields.apply_carried name (·.bind Datum.toText?) rfl

theorem date_eq_carried : fields.date name = (fields.carried name).bind Datum.toDate? :=
  fields.apply_carried name (·.bind Datum.toDate?) rfl

theorem flag_eq_carried : fields.flag name = (fields.carried name).elim false Datum.toBool :=
  fields.apply_carried name (·.elim false Datum.toBool) rfl

theorem lines_eq_carried : fields.lines name = (fields.carried name).elim [] Datum.toLines :=
  fields.apply_carried name (·.elim [] Datum.toLines) rfl

end Fields

/-! ### What is written -/

namespace Datum

@[simp] theorem toText?_ofText? (value : Option String) : (ofText? value).toText? = value := by
  cases value <;> rfl

@[simp] theorem toDate?_ofDate? (value : Option DateValue) : (ofDate? value).toDate? = value := by
  match value with
  | none | some (.text _) | some (.date _) | some (.moment _) => rfl

@[simp] theorem toLines_ofLines (ls : List String) : (ofLines ls).toLines = ls := by
  change (ls.map text).filterMap plain? = ls
  rw [List.filterMap_map]
  exact List.filterMap_some

@[simp] theorem toBool_bool (b : Bool) : (bool b).toBool = b := rfl

@[simp] theorem isShown_ofText? (value : Option String) : (ofText? value).isShown = true := by
  cases value <;> rfl

@[simp] theorem isShown_ofDate? (value : Option DateValue) : (ofDate? value).isShown = true := by
  match value with
  | none | some (.text _) | some (.date _) | some (.moment _) => rfl

@[simp] theorem isShown_bool (b : Bool) : (bool b).isShown = true := rfl

@[simp] theorem isShown_ofLines (ls : List String) : (ofLines ls).isShown = true := by
  change areShown (ls.map text) = true
  induction ls with
  | nil => rfl
  | cons l ls ih => exact ih

end Datum

/-! ### The laws of a kind of part -/

/-- The names of the fields of a kind of part. -/
def Entry.fieldNames (α : Type) [Entry α] : List String := (toFields (ofFields [] : α)).map Prod.fst

/-- Whether the characters are words of small letters of ASCII with single underscores between them;
`start` tells whether a word starts. -/
def areWords (start : Bool) : List Char → Bool
  | [] => !start
  | c :: rest => if c = '_' then !start && areWords true rest else c.isLower && areWords false rest

/-- A kind of part with the laws of its fields. -/
class LawfulEntry (α : Type) [Entry α] : Prop where
  /-- The fields that a part is written as are read back as that part. -/
  ofFields_toFields (e : α) : Entry.ofFields (Entry.toFields e) = e
  /-- All parts of the kind are written under the same names. -/
  names_toFields (e : α) : (Entry.toFields e).map Prod.fst = Entry.fieldNames α
  /-- Everything that is written has a text. -/
  areShown_toFields (e : α) : ((Entry.toFields e).all fun p => p.2.isShown) = true
  /-- A part depends on what the fields of its kind carry. -/
  ofFields_congr (f g : Fields) (h : ∀ name ∈ Entry.fieldNames α, f.carried name = g.carried name) :
    (Entry.ofFields f : α) = Entry.ofFields g
  /-- The names of the fields are words in snake case. -/
  areWords_fieldNames : ((Entry.fieldNames α).all fun name => areWords true name.toList) = true

open Entry

instance : LawfulEntry Person where
  ofFields_toFields e := by simp [toFields, ofFields, Fields.text, Fields.date, Fields.get?]
  names_toFields _ := rfl
  areShown_toFields e := by simp [toFields]
  ofFields_congr f g h := by
    simp only [fieldNames, toFields, List.map, List.forall_mem_cons] at h
    simp only [ofFields, Fields.text_eq_carried, Fields.date_eq_carried, h]
  areWords_fieldNames := by decide

instance : LawfulEntry Job where
  ofFields_toFields e := by
    simp [toFields, ofFields, Fields.text, Fields.date, Fields.lines, Fields.flag, Fields.get?]
  names_toFields _ := rfl
  areShown_toFields e := by simp [toFields]
  ofFields_congr f g h := by
    simp only [fieldNames, toFields, List.map, List.forall_mem_cons] at h
    simp only [ofFields, Fields.text_eq_carried, Fields.date_eq_carried,
      Fields.lines_eq_carried, Fields.flag_eq_carried, h]
  areWords_fieldNames := by decide

instance : LawfulEntry Study where
  ofFields_toFields e := by
    simp [toFields, ofFields, Fields.text, Fields.date, Fields.lines, Fields.get?]
  names_toFields _ := rfl
  areShown_toFields e := by simp [toFields]
  ofFields_congr f g h := by
    simp only [fieldNames, toFields, List.map, List.forall_mem_cons] at h
    simp only [ofFields, Fields.text_eq_carried, Fields.date_eq_carried, Fields.lines_eq_carried, h]
  areWords_fieldNames := by decide

instance : LawfulEntry Skill where
  ofFields_toFields e := by simp [toFields, ofFields, Fields.text, Fields.get?]
  names_toFields _ := rfl
  areShown_toFields e := by simp [toFields]
  ofFields_congr f g h := by
    simp only [fieldNames, toFields, List.map, List.forall_mem_cons] at h
    simp only [ofFields, Fields.text_eq_carried, h]
  areWords_fieldNames := by decide

instance : LawfulEntry Project where
  ofFields_toFields e := by
    simp [toFields, ofFields, Fields.text, Fields.date, Fields.lines, Fields.get?]
  names_toFields _ := rfl
  areShown_toFields e := by simp [toFields]
  ofFields_congr f g h := by
    simp only [fieldNames, toFields, List.map, List.forall_mem_cons] at h
    simp only [ofFields, Fields.text_eq_carried, Fields.date_eq_carried, Fields.lines_eq_carried, h]
  areWords_fieldNames := by decide

instance : LawfulEntry Certificate where
  ofFields_toFields e := by simp [toFields, ofFields, Fields.text, Fields.date, Fields.get?]
  names_toFields _ := rfl
  areShown_toFields e := by simp [toFields]
  ofFields_congr f g h := by
    simp only [fieldNames, toFields, List.map, List.forall_mem_cons] at h
    simp only [ofFields, Fields.text_eq_carried, Fields.date_eq_carried, h]
  areWords_fieldNames := by decide

instance : LawfulEntry Language where
  ofFields_toFields e := by simp [toFields, ofFields, Fields.text, Fields.get?]
  names_toFields _ := rfl
  areShown_toFields e := by simp [toFields]
  ofFields_congr f g h := by
    simp only [fieldNames, toFields, List.map, List.forall_mem_cons] at h
    simp only [ofFields, Fields.text_eq_carried, h]
  areWords_fieldNames := by decide

instance : LawfulEntry VolunteerRole where
  ofFields_toFields e := by
    simp [toFields, ofFields, Fields.text, Fields.date, Fields.lines, Fields.flag, Fields.get?]
  names_toFields _ := rfl
  areShown_toFields e := by simp [toFields]
  ofFields_congr f g h := by
    simp only [fieldNames, toFields, List.map, List.forall_mem_cons] at h
    simp only [ofFields, Fields.text_eq_carried, Fields.date_eq_carried,
      Fields.lines_eq_carried, Fields.flag_eq_carried, h]
  areWords_fieldNames := by decide

instance : LawfulEntry Award where
  ofFields_toFields e := by simp [toFields, ofFields, Fields.text, Fields.date, Fields.get?]
  names_toFields _ := rfl
  areShown_toFields e := by simp [toFields]
  ofFields_congr f g h := by
    simp only [fieldNames, toFields, List.map, List.forall_mem_cons] at h
    simp only [ofFields, Fields.text_eq_carried, Fields.date_eq_carried, h]
  areWords_fieldNames := by decide

instance : LawfulEntry Publication where
  ofFields_toFields e := by simp [toFields, ofFields, Fields.text, Fields.date, Fields.get?]
  names_toFields _ := rfl
  areShown_toFields e := by simp [toFields]
  ofFields_congr f g h := by
    simp only [fieldNames, toFields, List.map, List.forall_mem_cons] at h
    simp only [ofFields, Fields.text_eq_carried, Fields.date_eq_carried, h]
  areWords_fieldNames := by decide

instance : LawfulEntry Referee where
  ofFields_toFields e := by simp [toFields, ofFields, Fields.text, Fields.get?]
  names_toFields _ := rfl
  areShown_toFields e := by simp [toFields]
  ofFields_congr f g h := by
    simp only [fieldNames, toFields, List.map, List.forall_mem_cons] at h
    simp only [ofFields, Fields.text_eq_carried, h]
  areWords_fieldNames := by decide

instance : LawfulEntry Hobby where
  ofFields_toFields e := by simp [toFields, ofFields, Fields.text, Fields.get?]
  names_toFields _ := rfl
  areShown_toFields e := by simp [toFields]
  ofFields_congr f g h := by
    simp only [fieldNames, toFields, List.map, List.forall_mem_cons] at h
    simp only [ofFields, Fields.text_eq_carried, h]
  areWords_fieldNames := by decide

instance : LawfulEntry ExtraSection where
  ofFields_toFields e := by simp [toFields, ofFields, Fields.text, Fields.get?]
  names_toFields _ := rfl
  areShown_toFields e := by simp [toFields]
  ofFields_congr f g h := by
    simp only [fieldNames, toFields, List.map, List.forall_mem_cons] at h
    simp only [ofFields, Fields.text_eq_carried, h]
  areWords_fieldNames := by decide

end Vitae
