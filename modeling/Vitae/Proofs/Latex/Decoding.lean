import Mathlib.Data.List.Forall2
import Vitae.Proofs.Latex.Arguments
import Vitae.Proofs.Latex.Occurrence
import Vitae.Proofs.Text.Words

/-!
# Reading escaped text back

Escaped text is read from the front: where an escape sequence stands, its character is
read, and any other character is read as itself (`decode`). No sequence begins with
another one and all of them begin with a backslash, which is written for no character
alone, so what is read is what was written (`decodeFrom_escapeChars`). Only two things are
lost: the layout of blanks, before anything is escaped, and the kind of long dashes
(`plainForm`). The escaped texts are the single lines that are put together from what
characters are written as (`escape_decodable`).
-/

namespace Vitae.Latex

open Text

/-! ### What characters are written as -/

/-- The escape sequences with the characters that they stand for, the longest first. -/
def sequences : List (List Char × Char) :=
  [("\\textasciicircum\x7b\x7d".toList, '^'), ("\\textasciitilde\x7b\x7d".toList, '~'),
   ("\\textbackslash\x7b\x7d".toList, '\\'), ("\\ldots\x7b\x7d".toList, '…'), ("\\\x7b".toList, '\x7b'),
   ("\\\x7d".toList, '\x7d'), ("\\$".toList, '$'), ("\\&".toList, '&'), ("\\%".toList, '%'),
   ("\\#".toList, '#'), ("\\_".toList, '_')]

/-- The dashes that are written as two hyphens. -/
def dashes : List Char := ['–', '—']

/-- How characters are written. -/
inductive Written : Char → List Char → Prop where
  /-- A character of a sequence is written as the sequence. -/
  | sequence {p : List Char × Char} (h : p ∈ sequences) : Written p.2 p.1
  /-- A long dash is written as two hyphens. -/
  | dash {c : Char} (h : c ∈ dashes) : Written c ['-', '-']
  /-- Any other character is written as itself. -/
  | self {c : Char} (hsequence : c ∉ sequences.map Prod.snd) (hdash : c ∉ dashes) : Written c [c]

theorem Written.escapeChar_eq {c : Char} {cs : List Char} (h : Written c cs) : escapeChar c = cs := by
  cases h with
  | @sequence p h =>
    have key : ∀ p ∈ sequences, escapeChar p.2 = p.1 := by decide
    exact key p h
  | dash h =>
    have key : (dashes.all fun c => escapeChar c = ['-', '-']) = true := by decide
    exact of_decide_eq_true (List.all_eq_true.mp key c h)
  | self hsequence hdash =>
    unfold escapeChar
    split <;> first
      | exact absurd (by decide) hdash
      | exact absurd (by decide) hsequence
      | rfl

/-- Characters are written as the escaper writes them. -/
theorem written_iff {c : Char} {cs : List Char} : Written c cs ↔ escapeChar c = cs := by
  refine ⟨Written.escapeChar_eq, ?_⟩
  rintro rfl
  obtain ⟨cs, hcs⟩ : ∃ cs, Written c cs := by
    by_cases hsequence : c ∈ sequences.map Prod.snd
    · obtain ⟨p, hp, rfl⟩ := List.mem_map.mp hsequence
      exact ⟨_, .sequence hp⟩
    · by_cases hdash : c ∈ dashes
      · exact ⟨_, .dash hdash⟩
      · exact ⟨_, .self hsequence hdash⟩
  rwa [hcs.escapeChar_eq]

/-- Characters that are written one behind the other. -/
theorem forall₂_written_iff {cs : List Char} {pieces : List (List Char)} :
    List.Forall₂ Written cs pieces ↔ pieces = cs.map escapeChar := by
  have hwritten : Written = fun c cs => escapeChar c = cs := funext₂ fun _ _ => propext written_iff
  rw [hwritten, ← List.forall₂_map_left_iff (f := escapeChar) (R := Eq), List.forall₂_eq_eq_eq, eq_comm]

/-! ### Reading -/

/-- Reads escaped text. Where a sequence stands, its character is read, and the rest of the sequence is
passed over; `skip` is the number of characters to be passed over. -/
def decodeFrom : Nat → List Char → List Char
  | _, [] => []
  | skip + 1, _ :: cs => decodeFrom skip cs
  | 0, c :: cs =>
    match sequences.find? fun p => p.1.isPrefixOf (c :: cs) with
    | some p => p.2 :: decodeFrom (p.1.length - 1) cs
    | none => c :: decodeFrom 0 cs

/-- The text that escaped text was made from. -/
def decode (s : String) : String := String.ofList (decodeFrom 0 s.toList)

theorem decodeFrom_length_append (a b : List Char) : decodeFrom a.length (a ++ b) = decodeFrom 0 b := by
  induction a with
  | nil => rfl
  | cons c a ih => exact ih

/-- The sequence that a text begins with is the one that is found: none begins with another one. -/
theorem find?_sequences {p : List Char × Char} (hp : p ∈ sequences) (cs : List Char) :
    (sequences.find? fun q => q.1.isPrefixOf (p.1 ++ cs)) = some p := by
  have hapart : ∀ p ∈ sequences, ∀ q ∈ sequences, q ≠ p → Apart q.1 p.1 := by decide
  have hbegins : p.1 <+: p.1 ++ cs := List.prefix_append p.1 cs
  have hsome : (sequences.find? fun q => q.1.isPrefixOf (p.1 ++ cs)).isSome :=
    List.find?_isSome.mpr ⟨p, hp, List.isPrefixOf_iff_prefix.mpr hbegins⟩
  obtain ⟨q, hq⟩ := Option.isSome_iff_exists.mp hsome
  have hfound := List.find?_some hq
  have hprefix : q.1 <+: p.1 ++ cs := List.isPrefixOf_iff_prefix.mp hfound
  have hqp : q = p := by
    by_contra hne
    obtain ⟨h, h'⟩ := hapart p hp q (List.mem_of_find?_eq_some hq) hne
    exact (List.prefix_or_prefix_of_prefix hprefix hbegins).elim h h'
  rw [hq, hqp]

/-- A sequence is read as its character. -/
theorem decodeFrom_sequence {p : List Char × Char} (hp : p ∈ sequences) (cs : List Char) :
    decodeFrom 0 (p.1 ++ cs) = p.2 :: decodeFrom 0 cs := by
  have hfind := find?_sequences hp cs
  have hne : ∀ p ∈ sequences, p.1 ≠ [] := by decide
  obtain ⟨c, rest, hrest⟩ := List.exists_cons_of_ne_nil (hne p hp)
  rw [hrest, List.cons_append] at hfind ⊢
  rw [decodeFrom, hfind]
  simp only [hrest, List.length_cons, Nat.add_sub_cancel, decodeFrom_length_append]

/-- A character other than a backslash is read as itself. -/
theorem decodeFrom_cons {c : Char} (hc : c ≠ '\\') (cs : List Char) :
    decodeFrom 0 (c :: cs) = c :: decodeFrom 0 cs := by
  have hhead : ∀ p ∈ sequences, p.1.head? = some '\\' := by decide
  have hnone : (sequences.find? fun p => p.1.isPrefixOf (c :: cs)) = none := by
    refine List.find?_eq_none.mpr fun p hp hprefix => ?_
    obtain ⟨rest, hrest⟩ := List.head?_eq_some_iff.mp (hhead p hp)
    rw [hrest] at hprefix
    exact hc (List.cons_prefix_cons.mp (List.isPrefixOf_iff_prefix.mp hprefix)).1.symm
  rw [decodeFrom, hnone]

/-! ### What is lost -/

/-- A character with long dashes as two hyphens. -/
def hyphens (c : Char) : List Char := if c ∈ dashes then ['-', '-'] else [c]

/-- The words of a text with one space between them, and its long dashes as two hyphens. -/
def plainForm (s : String) : String :=
  String.ofList (([' '].intercalate (wordsChars s.toList)).flatMap hyphens)

/-- What is written for a character is read as that character, or as two hyphens. -/
theorem decodeFrom_escapeChar (c : Char) (cs : List Char) :
    decodeFrom 0 (escapeChar c ++ cs) = hyphens c ++ decodeFrom 0 cs := by
  have hwritten : Written c (escapeChar c) := written_iff.mpr rfl
  generalize escapeChar c = written at hwritten
  cases hwritten with
  | @sequence p h =>
    have hdash : ∀ p ∈ sequences, hyphens p.2 = [p.2] := by decide
    rw [decodeFrom_sequence h, hdash p h]
    rfl
  | dash h =>
    have hhyphen : '-' ≠ '\\' := by decide
    rw [hyphens, if_pos h, List.cons_append, decodeFrom_cons hhyphen, List.cons_append, decodeFrom_cons hhyphen]
    rfl
  | self hsequence hdash =>
    have hback : c ≠ '\\' := by
      rintro rfl
      exact hsequence (by decide)
    rw [hyphens, if_neg hdash, List.singleton_append, decodeFrom_cons hback]
    rfl

theorem decodeFrom_escapeChars (cs : List Char) : decodeFrom 0 (escapeChars cs) = cs.flatMap hyphens := by
  induction cs with
  | nil => rfl
  | cons c cs ih =>
    rw [escapeChars, List.flatMap_cons, decodeFrom_escapeChar, List.flatMap_cons]
    exact congrArg _ ih

/-- Two hyphens are written as the long dash is. -/
theorem escapeChars_hyphens (cs : List Char) : escapeChars (cs.flatMap hyphens) = escapeChars cs := by
  have hchar : ∀ c, escapeChars (hyphens c) = escapeChar c := by
    intro c
    rw [hyphens]
    split
    · rename_i hdash
      rw [(Written.dash hdash).escapeChar_eq]
      rfl
    · exact List.append_nil _
  simp only [escapeChars, List.flatMap_assoc] at hchar ⊢
  simp only [hchar]

/-- Texts are written alike when they differ in the kind of dashes only. -/
theorem escapeChars_eq_iff {a b : List Char} :
    escapeChars a = escapeChars b ↔ a.flatMap hyphens = b.flatMap hyphens := by
  constructor
  · intro h
    rw [← decodeFrom_escapeChars, h, decodeFrom_escapeChars]
  · intro h
    rw [← escapeChars_hyphens, h, escapeChars_hyphens]

/-- Texts are escaped alike when they have the same plain form. -/
theorem escape_eq_iff {s t : String} : escape s = escape t ↔ plainForm s = plainForm t := by
  rw [← String.toList_inj, toList_escape, toList_escape, escapeChars_eq_iff, ← intercalate_wordsChars,
    ← intercalate_wordsChars, plainForm, plainForm, ← String.toList_inj, String.toList_ofList, String.toList_ofList]

/-- The escaper keeps blanks as they are, and brings none in. -/
theorem keepsBlanks_escapeChar : KeepsBlanks escapeChar := by
  have hsequences : ∀ p ∈ sequences, isBlank p.2 = false ∧ p.1 ≠ [] ∧ (p.1.all fun c => !isBlank c) := by
    decide
  have hdashes : (dashes.all fun c => isBlank c = false) = true := by decide
  have hother : ∀ c, ¬ isBlank c → escapeChar c ≠ [] ∧ ∀ d ∈ escapeChar c, ¬ isBlank d := by
    intro c hc
    have hwritten : Written c (escapeChar c) := written_iff.mpr rfl
    generalize escapeChar c = written at hwritten
    cases hwritten with
    | @sequence p h =>
      obtain ⟨-, hne, hblank⟩ := hsequences p h
      exact ⟨hne, fun d hd => by simpa using List.all_eq_true.mp hblank d hd⟩
    | dash h =>
      exact ⟨by decide, List.forall_mem_cons.mpr ⟨by decide, List.forall_mem_singleton.mpr (by decide)⟩⟩
    | self => exact ⟨List.cons_ne_nil c [], List.forall_mem_singleton.mpr hc⟩
  refine ⟨fun c hc => ?_, fun c hc => (hother c hc).1, fun c hc => (hother c hc).2⟩
  refine (Written.self (fun h => ?_) fun h => ?_).escapeChar_eq
  · obtain ⟨p, hp, rfl⟩ := List.mem_map.mp h
    rw [(hsequences p hp).1] at hc
    cases hc
  · rw [of_decide_eq_true (List.all_eq_true.mp hdashes c h)] at hc
    cases hc

/-- What is written one behind the other is escaped text when it is a single line. -/
theorem exists_escape_iff {t : String} :
    (∃ s, escape s = t) ↔
      singleLine t = t ∧ ∃ cs pieces, List.Forall₂ Written cs pieces ∧ t.toList = pieces.flatten := by
  simp only [forall₂_written_iff]
  constructor
  · rintro ⟨s, rfl⟩
    refine ⟨?_, singleLineChars s.toList, _, rfl, toList_escape s⟩
    rw [← String.toList_inj, toList_singleLine, toList_escape, escapeChars,
      singleLineChars_flatMap keepsBlanks_escapeChar, singleLineChars_singleLineChars]
  · rintro ⟨hline, cs, -, rfl, ht⟩
    refine ⟨String.ofList cs, ?_⟩
    rw [← hline, ← String.toList_inj, toList_singleLine, ht, toList_escape, String.toList_ofList]
    exact (singleLineChars_flatMap keepsBlanks_escapeChar cs).symm

/-- **Escaping loses nothing but the layout of blanks and the kind of dashes.** What is read back from an
escaped text are its words with one space between them, with long dashes as two hyphens, so two texts are
escaped alike exactly when these forms of them are equal. Each character of the single line is written
once, as its sequence, as two hyphens, or as itself, and every single line of such pieces is the escaped
form of a text. -/
theorem escape_decodable :
    (∀ s, decode (escape s) = plainForm s) ∧
    (∀ s t, escape s = escape t ↔ plainForm s = plainForm t) ∧
    (∀ s, ∃ pieces, List.Forall₂ Written ([' '].intercalate (wordsChars s.toList)) pieces ∧
      (escape s).toList = pieces.flatten) ∧
    ∀ t, (∃ s, escape s = t) ↔
      singleLine t = t ∧ ∃ cs pieces, List.Forall₂ Written cs pieces ∧ t.toList = pieces.flatten := by
  have hdecode : ∀ s, decode (escape s) = plainForm s := by
    intro s
    rw [decode, toList_escape, decodeFrom_escapeChars, plainForm, intercalate_wordsChars]
  refine ⟨hdecode, fun s t => escape_eq_iff, fun s => ?_, fun t => exists_escape_iff⟩
  refine ⟨_, forall₂_written_iff.mpr rfl, ?_⟩
  rw [intercalate_wordsChars, toList_escape]
  rfl

example : decode "\\textbackslash\x7b\x7dldots\\\x7b\\\x7d \\ldots\x7b\x7d" = "\\ldots\x7b\x7d …" := by decide

end Vitae.Latex
