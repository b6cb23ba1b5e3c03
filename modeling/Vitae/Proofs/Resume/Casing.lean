import Vitae.Proofs.Resume.Association
import Vitae.Proofs.Text.Lines
import Vitae.Proofs.Text.Percent

/-!
# Names in different cases

The name of a field is made of words, and a key spells it in snake case, in camel case or in
Pascal case (`Casing.spell`). The snake case form of a key in any of these cases is the name
in snake case (`Casing.snakeCase_spell`). Underscores are put in front of the capitals part by
part (`markCapitals_append`), so what carries this is one word behind another: its capital
becomes an underscore and the small letter (`lower_markCapitals_capitals`). What has no
capitals stays as it is (`snakeCaseChars_eq_self_iff`); no snake case form has any, so the form
of a form is itself (`snakeCase_snakeCase`).

A name is found again in its snake case spelling (`Casing.spell_snake_injective`). So what a
mapping holds is found under the names that its keys spell, each in a case of its own
(`Fields.get?_keyed_iff`), and the names of all fields are made of words
(`exists_words_of_mem_fieldNames`).
-/

namespace Vitae

open Text

/-! ### Letters and digits of ASCII -/

section Letters

variable {c : Char}

/-- The lower case of a character of ASCII is one of ASCII, and no capital. -/
theorem small_toLower (h : c.toNat < 0x80) : c.toLower.toNat < 0x80 ∧ c.toLower.isUpper = false :=
  of_ascii (P := fun c => c.toLower.toNat < 0x80 ∧ c.toLower.isUpper = false) (by decide) h

/-- What is no capital is its own lower case. -/
theorem toLower_of_small (h : c.toNat < 0x80) (hsmall : c.isUpper = false) : c.toLower = c :=
  of_ascii (P := fun c => c.isUpper = false → c.toLower = c) (by decide) h hsmall

/-- Whether a character can stand behind the first one of a word. -/
def isWordChar (c : Char) : Bool := c.isLower || c.isDigit

theorem isWordChar_of_isLower (h : c.isLower = true) : isWordChar c = true := by
  rw [isWordChar, h, Bool.true_or]

theorem ascii_of_isWordChar (h : isWordChar c = true) : c.toNat < 0x80 := by
  have halphanum : c.isAlphanum = true := by
    rcases (Bool.or_eq_true _ _).mp h with hlower | hdigit
    · exact (Bool.or_eq_true _ _).mpr (.inl ((Bool.or_eq_true _ _).mpr (.inr hlower)))
    · exact (Bool.or_eq_true _ _).mpr (.inr hdigit)
  exact Nat.lt_succ_of_lt (printed_of_isAlphanum halphanum).2

/-- What stands in a word is no capital. -/
theorem small_of_isWordChar (h : isWordChar c = true) : c.isUpper = false :=
  of_ascii (P := fun c => isWordChar c = true → c.isUpper = false) (by decide) (ascii_of_isWordChar h) h

/-- The capital of a small letter is a capital of ASCII, and has the letter as its lower case. -/
theorem capital_of_isLower (h : c.isLower = true) :
    c.toUpper.isUpper = true ∧ c.toUpper.toLower = c ∧ c.toUpper.toNat < 0x80 :=
  of_ascii
    (P := fun c => c.isLower = true → c.toUpper.isUpper = true ∧ c.toUpper.toLower = c ∧ c.toUpper.toNat < 0x80)
    (by decide) (ascii_of_isWordChar (isWordChar_of_isLower h)) h

end Letters

/-! ### Underscores in front of capitals -/

section Marks

variable {cs : List Char} {c : Char}

theorem markCapitals_append (cs ds : List Char) :
    markCapitals (cs ++ ds) = markCapitals cs ++ markCapitals ds := by
  induction cs with
  | nil => rfl
  | cons c cs ih =>
    rw [List.cons_append, markCapitals, markCapitals, ih]
    split <;> rfl

theorem markCapitals_of_small (h : ∀ d ∈ cs, d.isUpper = false) : markCapitals cs = cs := by
  induction cs with
  | nil => rfl
  | cons c cs ih =>
    obtain ⟨hc, hcs⟩ := List.forall_mem_cons.mp h
    rw [markCapitals, hc, ih hcs]
    rfl

/-- Underscores are of ASCII, as everything that gets them is. -/
theorem ascii_markCapitals (h : ∀ d ∈ cs, d.toNat < 0x80) : ∀ d ∈ markCapitals cs, d.toNat < 0x80 := by
  induction cs with
  | nil => exact h
  | cons c cs ih =>
    obtain ⟨hc, hcs⟩ := List.forall_mem_cons.mp h
    have hrest : ∀ d ∈ c :: markCapitals cs, d.toNat < 0x80 := List.forall_mem_cons.mpr ⟨hc, ih hcs⟩
    rw [markCapitals]
    split
    · exact List.forall_mem_cons.mpr ⟨by decide, hrest⟩
    · exact hrest

theorem ascii_cons_markCapitals (h : ∀ d ∈ c :: cs, d.toNat < 0x80) :
    ∀ d ∈ c :: markCapitals cs, d.toNat < 0x80 := by
  obtain ⟨hc, hcs⟩ := List.forall_mem_cons.mp h
  exact List.forall_mem_cons.mpr ⟨hc, ascii_markCapitals hcs⟩

/-- On a key of ASCII the lower case works character by character. -/
theorem snakeCaseChars_cons (h : ∀ d ∈ c :: cs, d.toNat < 0x80) :
    snakeCaseChars (c :: cs) = (c :: markCapitals cs).map Char.toLower := by
  rw [snakeCaseChars, lowerChars, lowerFrom_of_ascii (ascii_cons_markCapitals h)]

/-- The snake case form of a key of ASCII is of ASCII and has no capitals. -/
theorem small_of_mem_snakeCaseChars (h : ∀ d ∈ cs, d.toNat < 0x80) :
    ∀ d ∈ snakeCaseChars cs, d.toNat < 0x80 ∧ d.isUpper = false := by
  cases cs with
  | nil => exact fun d hd => absurd hd List.not_mem_nil
  | cons c cs =>
    rw [snakeCaseChars_cons h, List.forall_mem_map]
    exact fun d hd => small_toLower (ascii_cons_markCapitals h d hd)

/-- Of the keys of ASCII those without capitals stay as they are. -/
theorem snakeCaseChars_eq_self_iff (h : ∀ d ∈ cs, d.toNat < 0x80) :
    snakeCaseChars cs = cs ↔ ∀ d ∈ cs, d.isUpper = false := by
  constructor
  · intro heq d hd
    exact (small_of_mem_snakeCaseChars h d (heq.symm ▸ hd)).2
  · intro hsmall
    cases cs with
    | nil => rfl
    | cons c cs =>
      have hmarked : markCapitals cs = cs := markCapitals_of_small (List.forall_mem_cons.mp hsmall).2
      have hlower : ∀ d ∈ c :: cs, d.toLower = d := fun d hd => toLower_of_small (h d hd) (hsmall d hd)
      rw [snakeCaseChars_cons h, hmarked, List.map_congr_left hlower, List.map_id']

end Marks

/-- The snake case form of a key of ASCII is in snake case. -/
theorem snakeCase_snakeCase {key : String} (h : isAscii key = true) :
    snakeCase (snakeCase key) = snakeCase key := by
  have hform := small_of_mem_snakeCaseChars (isAscii_iff.mp h)
  have heq : snakeCaseChars (snakeCaseChars key.toList) = snakeCaseChars key.toList :=
    (snakeCaseChars_eq_self_iff fun d hd => (hform d hd).1).mpr fun d hd => (hform d hd).2
  rw [snakeCase, snakeCase, String.toList_ofList, heq]

/-! ### Words -/

/-- A word of a name: a small letter of ASCII with small letters and digits behind it. -/
structure Word where
  /-- The letter that the word begins with. -/
  first : Char
  /-- What stands behind it. -/
  rest : List Char
  /-- The word begins with a small letter. -/
  isLower_first : first.isLower = true
  /-- Small letters and digits follow. -/
  isWordChar_rest : rest.all isWordChar = true
  deriving DecidableEq, Repr

namespace Word

variable (w : Word)

/-- The characters of a word. -/
def chars : List Char := w.first :: w.rest

/-- The characters of a word with a capital in front. -/
def capitalChars : List Char := w.first.toUpper :: w.rest

/-- The word as a text. -/
def text : String := String.ofList w.chars

/-- The word as a text with a capital in front. -/
def capital : String := String.ofList w.capitalChars

theorem toList_text : w.text.toList = w.chars := String.toList_ofList

theorem toList_capital : w.capital.toList = w.capitalChars := String.toList_ofList

theorem chars_injective : Function.Injective chars := by
  rintro ⟨c, cs, _, _⟩ ⟨d, ds, _, _⟩ h
  obtain ⟨rfl, rfl⟩ := List.cons.inj h
  rfl

theorem isWordChar_of_mem : ∀ c ∈ w.chars, isWordChar c = true :=
  List.forall_mem_cons.mpr ⟨isWordChar_of_isLower w.isLower_first, List.all_eq_true.mp w.isWordChar_rest⟩

theorem underscore_not_mem : '_' ∉ w.chars :=
  fun h => absurd (w.isWordChar_of_mem '_' h) (by decide)

theorem small_of_mem : ∀ c ∈ w.chars, c.toNat < 0x80 ∧ c.isUpper = false :=
  fun c hc => ⟨ascii_of_isWordChar (w.isWordChar_of_mem c hc), small_of_isWordChar (w.isWordChar_of_mem c hc)⟩

theorem markCapitals_rest : markCapitals w.rest = w.rest :=
  markCapitals_of_small fun c hc => (w.small_of_mem c (List.mem_cons_of_mem _ hc)).2

theorem lower_rest : w.rest.map Char.toLower = w.rest := by
  have hlower : ∀ c ∈ w.rest, c.toLower = c := fun c hc => by
    obtain ⟨hascii, hsmall⟩ := w.small_of_mem c (List.mem_cons_of_mem _ hc)
    exact toLower_of_small hascii hsmall
  rw [List.map_congr_left hlower, List.map_id']

end Word

/-! ### Spelling -/

/-- How the words of a name are written in a key. -/
inductive Casing where
  /-- In small letters, with underscores between them. -/
  | snake
  /-- With a capital for each word but the first one. -/
  | camel
  /-- With a capital for each word. -/
  | pascal
  deriving DecidableEq, Repr

/-- The key that spells a name. -/
def Casing.spell : Casing → List Word → String
  | .snake, words => "_".intercalate (words.map Word.text)
  | .camel, [] => ""
  | .camel, word :: words => word.text ++ String.join (words.map Word.capital)
  | .pascal, words => String.join (words.map Word.capital)

namespace Casing

theorem toList_spell_snake (words : List Word) :
    (spell snake words).toList = ['_'].intercalate (words.map Word.chars) := by
  rw [spell, String.toList_intercalate, List.map_map]
  exact congrArg _ (List.map_congr_left fun w _ => w.toList_text)

theorem toList_spell_snake_cons (w : Word) (words : List Word) :
    (spell snake (w :: words)).toList = w.chars ++ words.flatMap fun v => '_' :: v.chars := by
  induction words generalizing w with
  | nil => rw [toList_spell_snake, List.map_singleton, List.intercalate_singleton, List.flatMap_nil, List.append_nil]
  | cons v words ih =>
    rw [toList_spell_snake, List.map_cons, List.map_cons, List.intercalate_cons_cons, ← List.map_cons,
      ← toList_spell_snake, ih, List.flatMap_cons, List.append_assoc]
    rfl

theorem toList_spell_pascal (words : List Word) :
    (spell pascal words).toList = words.flatMap Word.capitalChars := by
  rw [spell, String.toList_join, List.flatMap_map]
  exact List.flatMap_congr fun w _ => w.toList_capital

theorem toList_spell_camel_cons (w : Word) (words : List Word) :
    (spell camel (w :: words)).toList = w.chars ++ words.flatMap Word.capitalChars := by
  rw [← toList_spell_pascal, ← w.toList_text, ← String.toList_append]
  rfl

/-! ### Spellings read back -/

theorem ascii_of_mem_capitals {words : List Word} :
    ∀ c ∈ words.flatMap Word.capitalChars, c.toNat < 0x80 := by
  intro c hc
  obtain ⟨w, -, hc⟩ := List.mem_flatMap.mp hc
  rcases List.mem_cons.mp hc with rfl | hc
  · exact (capital_of_isLower w.isLower_first).2.2
  · exact (w.small_of_mem c (List.mem_cons_of_mem _ hc)).1

/-- Each capital becomes an underscore and the small letter. -/
theorem lower_markCapitals_capitals (words : List Word) :
    (markCapitals (words.flatMap Word.capitalChars)).map Char.toLower =
      words.flatMap fun w => '_' :: w.chars := by
  induction words with
  | nil => rfl
  | cons w words ih =>
    obtain ⟨hcapital, hlower, -⟩ := capital_of_isLower w.isLower_first
    have hword : (markCapitals w.capitalChars).map Char.toLower = '_' :: w.chars := by
      rw [Word.capitalChars, markCapitals, if_pos hcapital, w.markCapitals_rest, List.map_cons, List.map_cons,
        hlower, w.lower_rest]
      rfl
    rw [List.flatMap_cons, markCapitals_append, List.map_append, hword, ih, List.flatMap_cons]

/-- The snake case form of a key whose first letter may be a capital as well as a small one. -/
theorem snakeCaseChars_capitals {c : Char} (w : Word) (words : List Word) (hascii : c.toNat < 0x80)
    (hlower : c.toLower = w.first) :
    snakeCaseChars (c :: (w.rest ++ words.flatMap Word.capitalChars)) =
      w.chars ++ words.flatMap fun v => '_' :: v.chars := by
  have hkey : ∀ d ∈ c :: (w.rest ++ words.flatMap Word.capitalChars), d.toNat < 0x80 := by
    refine List.forall_mem_cons.mpr ⟨hascii, List.forall_mem_append.mpr ⟨fun d hd => ?_, ascii_of_mem_capitals⟩⟩
    exact (w.small_of_mem d (List.mem_cons_of_mem _ hd)).1
  rw [snakeCaseChars_cons hkey, markCapitals_append, List.map_cons, List.map_append, w.markCapitals_rest,
    w.lower_rest, lower_markCapitals_capitals, hlower]
  rfl

/-- A name in snake case has nothing in it but small letters, digits and underscores. -/
theorem small_of_mem_spell_snake (words : List Word) :
    ∀ c ∈ (spell snake words).toList, c.toNat < 0x80 ∧ c.isUpper = false := by
  intro c hc
  rw [toList_spell_snake] at hc
  rcases eq_or_exists_of_mem_intercalate hc with rfl | ⟨cs, hcs, hc⟩
  · decide
  · obtain ⟨w, -, rfl⟩ := List.mem_map.mp hcs
    exact w.small_of_mem c hc

/-- A key that spells a name in any case has the name in snake case as its snake case form. -/
theorem snakeCase_spell (casing : Casing) (words : List Word) :
    snakeCase (casing.spell words) = spell snake words := by
  apply String.toList_inj.mp
  rw [snakeCase, String.toList_ofList]
  cases words with
  | nil => cases casing <;> rfl
  | cons w words =>
    cases casing with
    | snake =>
      have hsmall := small_of_mem_spell_snake (w :: words)
      exact (snakeCaseChars_eq_self_iff fun c hc => (hsmall c hc).1).mpr fun c hc => (hsmall c hc).2
    | camel =>
      obtain ⟨hascii, hsmall⟩ := w.small_of_mem w.first List.mem_cons_self
      rw [toList_spell_camel_cons, toList_spell_snake_cons]
      exact snakeCaseChars_capitals w words hascii (toLower_of_small hascii hsmall)
    | pascal =>
      obtain ⟨-, hlower, hascii⟩ := capital_of_isLower w.isLower_first
      rw [toList_spell_pascal, toList_spell_snake_cons]
      exact snakeCaseChars_capitals w words hascii hlower

/-- The words of a name are the pieces of its snake case spelling. -/
theorem splitChars_spell_snake {words : List Word} (hne : words ≠ []) :
    splitChars '_' (spell snake words).toList = words.map Word.chars := by
  rw [toList_spell_snake]
  refine splitChars_intercalate (by simpa using hne) ?_
  rw [List.forall_mem_map]
  exact fun w _ => w.underscore_not_mem

/-- Different names are spelled differently. The empty text is one empty piece and no word, so the name
without words is told apart first. -/
theorem spell_snake_injective : Function.Injective (spell snake) := by
  have hfirst : ∀ (w : Word) (words : List Word), spell snake (w :: words) ≠ "" := by
    intro w words h
    have hchars := toList_spell_snake_cons w words
    rw [h] at hchars
    cases hchars
  intro words words' h
  cases words with
  | nil =>
    cases words' with
    | nil => rfl
    | cons w' words' => exact absurd h.symm (hfirst w' words')
  | cons w words =>
    cases words' with
    | nil => exact absurd h (hfirst w words)
    | cons w' words' =>
      apply List.map_injective_iff.mpr Word.chars_injective
      rw [← splitChars_spell_snake (List.cons_ne_nil w words), h, splitChars_spell_snake (List.cons_ne_nil w' words')]

theorem snakeCase_spell_eq_iff {casing casing' : Casing} {words words' : List Word} :
    snakeCase (casing.spell words) = snakeCase (casing'.spell words') ↔ words = words' := by
  rw [snakeCase_spell, snakeCase_spell, spell_snake_injective.eq_iff]

end Casing

/-! ### Values under keys that spell names -/

/-- A value under a key that spells a name. -/
structure Keyed where
  /-- The case of the key. -/
  casing : Casing
  /-- The name that it spells. -/
  words : List Word
  /-- The value. -/
  value : Datum

/-- The value with its key. -/
def Keyed.pair (k : Keyed) : Datum × Datum := (.text (k.casing.spell k.words), k.value)

/-- Each value is found under the name that its key spells, if no two keys spell the same name, and
nothing is found under any other name. -/
theorem Fields.get?_keyed_iff {keyed : List Keyed} (hnodup : (keyed.map Keyed.words).Nodup) {words : List Word}
    {value : Datum} :
    (ofPairs (keyed.map Keyed.pair)).get? (Casing.snake.spell words) = some value ↔
      ∃ casing, ⟨casing, words, value⟩ ∈ keyed := by
  have hfields : ofPairs (keyed.map Keyed.pair) = keyed.map fun k => (Casing.snake.spell k.words, k.value) := by
    rw [ofPairs, List.map_map]
    exact List.map_congr_left fun k _ => Prod.ext (k.casing.snakeCase_spell k.words) rfl
  have hnames : ((keyed.map fun k => (Casing.snake.spell k.words, k.value)).map Prod.fst).Nodup := by
    have hmap := hnodup.map Casing.spell_snake_injective
    rwa [List.map_map] at hmap ⊢
  rw [hfields, get?_eq_some_iff hnames, List.mem_map]
  constructor
  · rintro ⟨⟨casing, words', value'⟩, hmem, heq⟩
    obtain ⟨hwords, rfl⟩ := Prod.mk.inj heq
    obtain rfl := Casing.spell_snake_injective hwords
    exact ⟨casing, hmem⟩
  · rintro ⟨casing, hmem⟩
    exact ⟨_, hmem, rfl⟩

/-! ### The names of the fields -/

theorem exists_word {cs : List Char} (hne : cs ≠ []) (h : ∀ c ∈ cs, c.isLower = true) :
    ∃ w : Word, w.chars = cs := by
  obtain ⟨c, cs, rfl⟩ := List.exists_cons_of_ne_nil hne
  obtain ⟨hc, hcs⟩ := List.forall_mem_cons.mp h
  exact ⟨⟨c, cs, hc, List.all_eq_true.mpr fun d hd => isWordChar_of_isLower (hcs d hd)⟩, rfl⟩

/-- Words of small letters with single underscores between them begin with what is left of the first
one, and the others follow. Nothing may be left of the first word when an underscore follows it, but at
the start of a word something must be: that is why the induction is on both places. -/
theorem exists_eq_append_of_areWords {cs : List Char} {start : Bool} (h : areWords start cs = true) :
    ∃ (begun : List Char) (words : List Word), cs = begun ++ words.flatMap (fun w => '_' :: w.chars) ∧
      (∀ c ∈ begun, c.isLower = true) ∧ (start = true → begun ≠ []) := by
  induction cs generalizing start with
  | nil => exact ⟨[], [], rfl, by simp, by simpa [areWords] using h⟩
  | cons c cs ih =>
    by_cases hc : c = '_'
    · subst hc
      obtain ⟨hstart, hcs⟩ : start = false ∧ areWords true cs = true := by simpa [areWords] using h
      obtain ⟨begun, words, rfl, hlower, hne⟩ := ih hcs
      obtain ⟨w, rfl⟩ := exists_word (hne rfl) hlower
      exact ⟨[], w :: words, rfl, by simp, by simp [hstart]⟩
    · obtain ⟨hlower, hcs⟩ : c.isLower = true ∧ areWords false cs = true := by simpa [areWords, hc] using h
      obtain ⟨begun, words, rfl, hbegun, -⟩ := ih hcs
      exact ⟨c :: begun, words, rfl, List.forall_mem_cons.mpr ⟨hlower, hbegun⟩, fun _ => List.cons_ne_nil c begun⟩

/-- Such a text is a name in snake case. -/
theorem exists_words_of_areWords {name : String} (h : areWords true name.toList = true) :
    ∃ words, words ≠ [] ∧ Casing.snake.spell words = name := by
  obtain ⟨begun, words, hname, hlower, hne⟩ := exists_eq_append_of_areWords h
  obtain ⟨w, rfl⟩ := exists_word (hne rfl) hlower
  refine ⟨w :: words, List.cons_ne_nil w words, String.toList_inj.mp ?_⟩
  rw [Casing.toList_spell_snake_cons, hname]

theorem Resume.areWords_toFields (r : Resume) :
    ((r.toFields.map Prod.fst).all fun name => areWords true name.toList) = true := by
  have hnames : r.toFields.map Prod.fst = (toFields {}).map Prod.fst := rfl
  rw [hnames]
  decide

/-- The names of the fields of a résumé and of its parts are names in snake case. -/
theorem exists_words_of_mem_fieldNames {α : Type} [Entry α] [LawfulEntry α] {name : String}
    (h : name ∈ (Resume.toFields {}).map Prod.fst ++ Entry.fieldNames α) :
    ∃ words, words ≠ [] ∧ Casing.snake.spell words = name := by
  apply exists_words_of_areWords
  rcases List.mem_append.mp h with h | h
  · exact List.all_eq_true.mp (Resume.areWords_toFields {}) name h
  · exact List.all_eq_true.mp LawfulEntry.areWords_fieldNames name h

/-- **Recased names.** Whatever words a name is made of, a key that spells it in camel case, in Pascal
case or in snake case has the name in snake case as its snake case form, and the form of a key of ASCII
is its own form. So two keys have the same form only if they spell the same name: when no two keys of
a mapping do, each name gets the value of its own key, and no other name gets any. The names of all
fields, of a résumé and of its parts, are made of words in this way. -/
theorem snakeCase_recased (α : Type) [Entry α] [LawfulEntry α] (key : String) (hascii : isAscii key = true) :
    (∀ (casing : Casing) (words : List Word), snakeCase (casing.spell words) = Casing.snake.spell words) ∧
      snakeCase (snakeCase key) = snakeCase key ∧
      (∀ (casing casing' : Casing) (words words' : List Word),
        snakeCase (casing.spell words) = snakeCase (casing'.spell words') ↔ words = words') ∧
      (∀ keyed : List Keyed, (keyed.map Keyed.words).Nodup → ∀ (words : List Word) (value : Datum),
        (Fields.ofPairs (keyed.map Keyed.pair)).get? (Casing.snake.spell words) = some value ↔
          ∃ casing, ⟨casing, words, value⟩ ∈ keyed) ∧
      ∀ name ∈ (Resume.toFields {}).map Prod.fst ++ Entry.fieldNames α,
        ∃ words, words ≠ [] ∧ ∀ casing : Casing, snakeCase (casing.spell words) = name := by
  refine ⟨Casing.snakeCase_spell, snakeCase_snakeCase hascii, ?collide, ?found, ?fields⟩
  case collide => exact fun _ _ _ _ => Casing.snakeCase_spell_eq_iff
  case found => exact fun keyed hnodup words value => Fields.get?_keyed_iff hnodup
  case fields =>
    intro name hname
    obtain ⟨words, hne, hwords⟩ := exists_words_of_mem_fieldNames hname
    exact ⟨words, hne, fun casing => (casing.snakeCase_spell words).trans hwords⟩

/-- The words of `is_a_b2`. -/
def isAB2 : List Word :=
  [⟨'i', ['s'], by decide, by decide⟩, ⟨'a', [], by decide, by decide⟩, ⟨'b', ['2'], by decide, by decide⟩]

/-- The words of `is_ab2`. -/
def isAb2 : List Word := [⟨'i', ['s'], by decide, by decide⟩, ⟨'a', ['b', '2'], by decide, by decide⟩]

example : Casing.camel.spell isAB2 = "isAB2" ∧ Casing.pascal.spell isAb2 = "IsAb2" := by decide

/-- Words of one letter, and two names that are told apart by one capital alone. -/
theorem snakeCase_recased_isAB2 :
    isAscii "isAB2" = true ∧ snakeCase (snakeCase "isAB2") = snakeCase "isAB2" ∧
      snakeCase (Casing.camel.spell isAB2) = "is_a_b2" ∧ snakeCase (Casing.pascal.spell isAB2) = "is_a_b2" ∧
      snakeCase (Casing.camel.spell isAB2) ≠ snakeCase (Casing.camel.spell isAb2) ∧
      (Fields.ofPairs [(.text (Casing.pascal.spell isAB2), .bool true), (.text (Casing.camel.spell isAb2), .null)]).get?
          (Casing.snake.spell isAB2) = some (.bool true) ∧
      ∃ words, words ≠ [] ∧ ∀ casing : Casing, snakeCase (casing.spell words) = "is_current_job" := by
  have hascii : isAscii "isAB2" = true := by decide
  obtain ⟨hspell, hagain, hcollide, hfound, hfields⟩ := snakeCase_recased Job "isAB2" hascii
  have hsnake : Casing.snake.spell isAB2 = "is_a_b2" := by decide
  have hdistinct : isAB2 ≠ isAb2 := by decide
  refine ⟨hascii, hagain, (hspell .camel isAB2).trans hsnake, (hspell .pascal isAB2).trans hsnake, ?_, ?_, ?_⟩
  · exact mt (hcollide .camel .camel isAB2 isAb2).mp hdistinct
  · have hnodup : ([isAB2, isAb2] : List (List Word)).Nodup := by simp [hdistinct]
    exact (hfound [⟨.pascal, isAB2, .bool true⟩, ⟨.camel, isAb2, .null⟩] hnodup isAB2 (.bool true)).mpr
      ⟨.pascal, List.mem_cons_self⟩
  · exact hfields "is_current_job" (by decide)

end Vitae
