import Vitae.Proofs.Resume.Casing
import Vitae.Resume.Record

/-!
# Records that were written

A résumé is written as a mapping of all its fields, each part of it as a mapping of all
the fields of the part; the keys are in snake case or in camel case (`Resume.written`).
Such a record is read as the résumé it was written from. What carries this is that a key
in either style has the name of its field as its snake case form (`KeyStyle.snakeCase_spell`):
the names are made of words, and the two styles are two of the cases that words are spelled in
(`KeyStyle.spell_camel`). So the fields that are found are those that were written
(`Fields.ofPairs_spelled`), and the laws of each kind of part do the rest.
-/

namespace Vitae

open Text

/-! ### Styles of keys -/

/-- The camel case form of words in snake case: without the underscores, with a capital behind each;
`capital` tells whether the next character becomes one. -/
def camelCaseChars (capital : Bool) : List Char → List Char
  | [] => []
  | c :: rest =>
    if c = '_' then camelCaseChars true rest
    else (if capital then c.toUpper else c) :: camelCaseChars false rest

/-- How the keys of a record are written. -/
inductive KeyStyle where
  /-- In snake case, as the fields are named. -/
  | snake
  /-- In camel case. -/
  | camel
  deriving DecidableEq, Repr

/-- The key for a field. -/
def KeyStyle.spell : KeyStyle → String → String
  | .snake, name => name
  | .camel, name => String.ofList (camelCaseChars false name.toList)

example : KeyStyle.camel.spell "is_current_job" = "isCurrentJob" := by decide

/-- What holds no underscore stays as it is. -/
theorem camelCaseChars_append {cs : List Char} (h : '_' ∉ cs) (ds : List Char) :
    camelCaseChars false (cs ++ ds) = cs ++ camelCaseChars false ds := by
  induction cs with
  | nil => rfl
  | cons c cs ih =>
    rw [List.mem_cons, not_or] at h
    rw [List.cons_append, camelCaseChars, if_neg (Ne.symm h.1), ih h.2]
    rfl

/-- The camel case form of the words behind the first one. -/
theorem camelCaseChars_words (words : List Word) :
    camelCaseChars false (words.flatMap fun w => '_' :: w.chars) = words.flatMap Word.capitalChars := by
  induction words with
  | nil => rfl
  | cons w words ih =>
    have hfirst : w.first ≠ '_' := fun h => w.underscore_not_mem (h ▸ List.mem_cons_self)
    have hrest : '_' ∉ w.rest := fun h => w.underscore_not_mem (List.mem_cons_of_mem _ h)
    rw [List.flatMap_cons, List.cons_append, camelCaseChars, if_pos rfl, Word.chars, List.cons_append,
      camelCaseChars, if_neg hfirst, camelCaseChars_append hrest, ih, List.flatMap_cons]
    rfl

/-- The camel case form of a name is the name in camel case. -/
theorem KeyStyle.spell_camel (words : List Word) :
    KeyStyle.camel.spell (Casing.snake.spell words) = Casing.camel.spell words := by
  apply String.toList_inj.mp
  rw [spell, String.toList_ofList]
  cases words with
  | nil => rfl
  | cons w words =>
    rw [Casing.toList_spell_snake_cons, Casing.toList_spell_camel_cons, camelCaseChars_append w.underscore_not_mem,
      camelCaseChars_words]

/-- A key in either style has the name of its field as its snake case form. -/
theorem KeyStyle.snakeCase_spell (style : KeyStyle) {name : String} (h : areWords true name.toList) :
    snakeCase (style.spell name) = name := by
  obtain ⟨words, -, rfl⟩ := exists_words_of_areWords h
  cases style with
  | snake => exact Casing.snake.snakeCase_spell words
  | camel => rw [spell_camel, Casing.snakeCase_spell]

/-! ### Written parts -/

/-- Fields as the pairs of a mapping, with keys in the given style. -/
def Fields.spelled (style : KeyStyle) (fields : Fields) : List (Datum × Datum) :=
  fields.map fun p => (.text (style.spell p.1), p.2)

/-- The fields of a written mapping are those that were written. -/
theorem Fields.ofPairs_spelled (style : KeyStyle) {fields : Fields}
    (h : ((fields.map Prod.fst).all fun name => areWords true name.toList) = true) :
    ofPairs (spelled style fields) = fields := by
  induction fields with
  | nil => rfl
  | cons p fields ih =>
    rw [List.map_cons, List.all_cons, Bool.and_eq_true] at h
    obtain ⟨hname, hrest⟩ := h
    have hfield : (snakeCase (Datum.text (style.spell p.1)).plain, p.2) = p :=
      Prod.ext (style.snakeCase_spell hname) rfl
    exact congrArg₂ List.cons hfield (ih hrest)

namespace Datum

/-- A mapping with its keys in the given style. -/
def respell (style : KeyStyle) : Datum → Datum
  | .map pairs => .map (pairs.map fun p => match p.1 with
    | .text name => (.text (style.spell name), p.2)
    | _ => p)
  | d => d

/-- The value of a field of a résumé with the keys of the parts in it in the given style. -/
def respellParts (style : KeyStyle) : Datum → Datum
  | .list items => .list (items.map (respell style))
  | d => respell style d

theorem respellParts_ofText? (style : KeyStyle) (value : Option String) :
    respellParts style (ofText? value) = ofText? value := by
  cases value <;> rfl

end Datum

namespace Entry

variable {α : Type} [Entry α] (style : KeyStyle)

/-- A part is written as its fields, with keys in the style. -/
theorem respell_toDatum (e : α) :
    (toDatum e).respell style = .map (Fields.spelled style (toFields e)) := by
  simp only [toDatum, Datum.respell, Fields.spelled, List.map_map]
  rfl

theorem respellParts_toDatum (e : α) : (toDatum e).respellParts style = (toDatum e).respell style := rfl

variable [LawfulEntry α]

theorem ofPairs_toFields (e : α) : Fields.ofPairs (Fields.spelled style (toFields e)) = toFields e :=
  Fields.ofPairs_spelled style (by rw [LawfulEntry.names_toFields]; exact LawfulEntry.areWords_fieldNames)

/-- A written part is read as the part it was written from. -/
theorem ofItem?_respell (e : α) : ofItem? ((toDatum e).respell style) = some e := by
  rw [respell_toDatum, ofItem?, ofPairs_toFields, LawfulEntry.ofFields_toFields]

/-- A written part can be read. -/
theorem isReadable_spelled (e : α) : isReadable α (Fields.spelled style (toFields e)) = true := by
  have hshown : ∀ p ∈ toFields e, p.2.isShown = true :=
    List.all_eq_true.mp (LawfulEntry.areShown_toFields e)
  simp only [isReadable, Fields.spelled, List.all_map, List.all_eq_true]
  intro p hp
  simp [Datum.isShown, hshown p hp]

/-- A written section holds the parts it was written from. -/
theorem ofList_respellParts (es : List α) :
    ofList α ((Resume.sectionDatum es).respellParts style) = es := by
  change ((es.map toDatum).map (Datum.respell style)).filterMap ofItem? = es
  rw [List.map_map, List.filterMap_map]
  induction es with
  | nil => rfl
  | cons e es ih =>
    rw [List.filterMap_cons, Function.comp, Function.comp, ofItem?_respell, ih]

end Entry

/-! ### Written résumés -/

namespace Resume

/-- A résumé as a mapping of all its fields, its parts as mappings of all of theirs, with the keys in
the given style. -/
def written (style : KeyStyle) (r : Resume) : Datum :=
  .map (Fields.spelled style (r.toFields.map fun p => (p.1, p.2.respellParts style)))

variable (style : KeyStyle) (r : Resume)

/-- The fields of a written résumé. -/
theorem ofPairs_written :
    Fields.ofPairs (Fields.spelled style (r.toFields.map fun p => (p.1, p.2.respellParts style))) =
      r.toFields.map fun p => (p.1, p.2.respellParts style) := by
  refine Fields.ofPairs_spelled style ?_
  rw [List.map_map]
  exact areWords_toFields r

theorem isSectionReadable_written {α : Type} [Entry α] [LawfulEntry α] {fields : Fields} {name : String}
    {es : List α} (h : fields.get? name = some ((sectionDatum es).respellParts style)) :
    isSectionReadable α fields name = true := by
  rw [isSectionReadable, h]
  change (((es.map Entry.toDatum).map (Datum.respell style)).all _) = true
  rw [List.map_map, List.all_map, List.all_eq_true]
  intro e _
  rw [Function.comp, Function.comp, Entry.respell_toDatum]
  exact Entry.isReadable_spelled style e

/-- The fields of a written résumé are read as that résumé. -/
theorem ofFields_written : ofFields (r.toFields.map fun p => (p.1, p.2.respellParts style)) = r := by
  simp [ofFields, toFields, personOf, entriesOf, Fields.text, Fields.get?, Entry.ofList_respellParts,
    Entry.respellParts_toDatum, Entry.respell_toDatum, Entry.ofPairs_toFields, LawfulEntry.ofFields_toFields,
    Datum.respellParts_ofText?]

theorem warnings_written : warnings (r.toFields.map fun p => (p.1, p.2.respellParts style)) = [] := rfl

/-- Everything in a written résumé can be read. -/
theorem isReadable_written : isReadable (r.toFields.map fun p => (p.1, p.2.respellParts style)) = true := by
  simp only [isReadable, Bool.and_eq_true, and_assoc]
  refine ⟨?person, ?summary, ?tracking, ?_, ?_, ?_, ?_, ?_, ?_, ?_, ?_, ?_, ?_, ?_, ?_⟩
  case person =>
    change Option.all (Entry.isReadable Person) (((Entry.toDatum r.person).respell style).pairs?) = true
    rw [Entry.respell_toDatum]
    exact Entry.isReadable_spelled style r.person
  case summary =>
    change (Datum.respellParts style (.ofText? r.summary)).isShown = true
    rw [Datum.respellParts_ofText?, Datum.isShown_ofText?]
  case tracking =>
    change (Datum.respellParts style (.ofText? r.trackingUrl)).isShown = true
    rw [Datum.respellParts_ofText?, Datum.isShown_ofText?]
  all_goals exact isSectionReadable_written style rfl

/-- **Written and read again.** Whatever résumé was read, or could be, a record that it is written to
is read as that résumé, with all its texts, dates, truth values and lists in their order, and with no
warning; so in snake case as in camel case. -/
theorem ofRecord_written (style : KeyStyle) (r : Resume) :
    ofDatum? (r.written style) = .ok (r, []) ∧ ofRecord (r.written style) = (.ok r, []) := by
  have hread : ofDatum? (r.written style) = .ok (r, []) := by
    rw [written, ofDatum?, ofPairs_written, ofFields_written, warnings_written]
  have hkeys : areKeysReadable (r.written style) = true := by
    simp [written, areKeysReadable, Fields.spelled, Datum.isShown]
  have hvalues : isReadable (Fields.ofPairs ((r.written style).pairs?.getD [])) = true := by
    change isReadable (Fields.ofPairs (Fields.spelled style _)) = true
    rw [ofPairs_written, isReadable_written]
  refine ⟨hread, ?_⟩
  simp only [ofRecord, hkeys, hread, hvalues]
  rfl

end Resume

end Vitae
