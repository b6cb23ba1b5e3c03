import Vitae.Proofs.Section.Names

/-!
# The name of a program

What the names of a program that are left have to do with the names that were given. They are
among them, and each of the others is part of one of them: a name that is held is only given up
for one that it is part of, and being part of a name carries over (`isCoveredBy_trans`). So no
name gets lost, however often one takes the place of another (`distinctNames_lossless`). A
further name changes what is held in one of three ways, whatever came before
(`added_distinctNames`).

A degree and a field of study are both left, in this order, unless one is part of the other
(`distinctNames_pair`).
-/

namespace Vitae.Section

open Text

/-! ### A further name -/

section

variable (names : List (Option String)) {value : Option String}

/-- A further name that shows something changes the names that are left in one of three ways. -/
theorem added_distinctNames {name : String} (h : trimmed? value = some name) :
    Added name (distinctNames names) (distinctNames (names ++ [value])) := by
  rw [distinctNames_concat, h]
  exact added_addName (descending_distinctNames names) name

/-- One that shows nothing does not count. -/
theorem distinctNames_concat_none (h : trimmed? value = none) :
    distinctNames (names ++ [value]) = distinctNames names := by
  rw [distinctNames_concat, h]

end

/-! ### A degree and a field of study -/

section

variable {degree field : Option String} {a b : String}

theorem distinctNames_singleton (hdegree : trimmed? degree = some a) : distinctNames [degree] = [a] := by
  rw [← List.nil_append [degree], distinctNames_concat, hdegree]
  rfl

/-- Of two names the second is left out if the first covers it, and takes its place if it covers the first;
otherwise both are left. -/
theorem distinctNames_pair (hdegree : trimmed? degree = some a) (hfield : trimmed? field = some b) :
    distinctNames [degree, field] =
      if isCoveredBy b a then [a] else if isCoveredBy a b then [b] else [a, b] := by
  have htwo : [degree, field] = [degree] ++ [field] := rfl
  rw [htwo, distinctNames_concat, hfield, distinctNames_singleton hdegree]
  rfl

theorem programName_pair (separator : String) (hdegree : trimmed? degree = some a) (hfield : trimmed? field = some b) :
    programName separator [degree, field] =
      if isCoveredBy b a then a else if isCoveredBy a b then b else a ++ separator ++ b := by
  rw [programName, distinctNames_pair hdegree hfield]
  split
  · exact String.intercalate_singleton
  · split
    · exact String.intercalate_singleton
    · rw [String.intercalate_cons_cons, String.intercalate_singleton]

end

/-! ### Nothing gets lost -/

/-- **The names that are left.** Every name that shows something is part of one that is left, in any case of
letters, and those that are left are given names, trimmed. A further name is left out because one of those held
covers it, takes the place of exactly one that is part of it, or comes last because none of those held has to do
with it. Of a degree and a field of study both are left, in this order, unless one is part of the other; then
the one that covers the other is left, the first if each does. -/
theorem distinctNames_lossless (names : List (Option String)) :
    (∀ name ∈ names.filterMap trimmed?, ∃ k ∈ distinctNames names,
      lowerChars name.toList <:+: lowerChars k.toList) ∧
    (∀ k ∈ distinctNames names, ∃ value ∈ names, trimmed? value = some k) ∧
    (∀ value, (trimmed? value = none → distinctNames (names ++ [value]) = distinctNames names) ∧
      ∀ name, trimmed? value = some name →
        Added name (distinctNames names) (distinctNames (names ++ [value]))) ∧
    ∀ degree field a b, trimmed? degree = some a → trimmed? field = some b →
      (distinctNames [degree, field] =
        if isCoveredBy b a then [a] else if isCoveredBy a b then [b] else [a, b]) ∧
      ∀ separator, programName separator [degree, field] =
        if isCoveredBy b a then a else if isCoveredBy a b then b else a ++ separator ++ b := by
  refine ⟨fun name hname => ?_, fun k hk => ?_, fun value => ⟨?_, fun name => ?_⟩, ?_⟩
  · obtain ⟨k, hk, hcovered⟩ := exists_of_mem_names names name hname
    exact ⟨k, hk, isCoveredBy_iff.mp hcovered⟩
  · exact List.mem_filterMap.mp (mem_names_of_mem_distinctNames hk)
  · exact distinctNames_concat_none names
  · exact added_distinctNames names
  · intro degree field a b hdegree hfield
    exact ⟨distinctNames_pair hdegree hfield, fun separator => programName_pair separator hdegree hfield⟩

/-- A degree, a value that is missing, and the same degree with its subject. -/
def degreeNames : List (Option String) := [some " B.S.", none, some "b.s. Physics"]

theorem distinctNames_lossless_degree :
    ("B.S." ∈ degreeNames.filterMap trimmed? ∧
      ∃ k ∈ distinctNames degreeNames, lowerChars "B.S.".toList <:+: lowerChars k.toList) ∧
    (distinctNames degreeNames = ["b.s. Physics"] ∧
      ∃ value ∈ degreeNames, trimmed? value = some "b.s. Physics") ∧
    (trimmed? (some "  ") = none ∧ distinctNames (degreeNames ++ [some "  "]) = distinctNames degreeNames) ∧
    (trimmed? (some "Maths ") = some "Maths" ∧
      Added "Maths" (distinctNames degreeNames) (distinctNames (degreeNames ++ [some "Maths "]))) ∧
    (trimmed? (some "MBA") = some "MBA" ∧ distinctNames [some "MBA", some "Maths "] = ["MBA", "Maths"] ∧
      programName programMark [some "MBA", some "Maths "] = "MBA, Maths") := by
  obtain ⟨hcovers, hgiven, hfurther, hpair⟩ := distinctNames_lossless degreeNames
  have hdegree : "B.S." ∈ degreeNames.filterMap trimmed? := by decide
  have hleft : distinctNames degreeNames = ["b.s. Physics"] := by decide
  have hmaths : trimmed? (some "Maths ") = some "Maths" := by decide
  have hnone : trimmed? (some "  ") = none := by decide
  have hmba : trimmed? (some "MBA") = some "MBA" := by decide
  obtain ⟨hnames, hprogram⟩ := hpair (some "MBA") (some "Maths ") "MBA" "Maths" hmba hmaths
  have happart : ¬ isCoveredBy "Maths" "MBA" ∧ ¬ isCoveredBy "MBA" "Maths" := by decide
  rw [if_neg happart.1, if_neg happart.2] at hnames
  have hmark := hprogram programMark
  rw [if_neg happart.1, if_neg happart.2] at hmark
  exact ⟨⟨hdegree, hcovers _ hdegree⟩, ⟨hleft, hgiven _ (by rw [hleft]; exact List.mem_singleton_self _)⟩,
    ⟨hnone, (hfurther _).1 hnone⟩, ⟨hmaths, (hfurther _).2 _ hmaths⟩, hmba, hnames, hmark⟩

end Vitae.Section
