/-!
# Finding a text in another one

The first occurrence of a text, with what stands before and after it.
-/

namespace Vitae.Text

/-- The rest of a text that begins with another one. -/
def dropPrefix? : List Char → List Char → Option (List Char)
  | [], cs => some cs
  | _ :: _, [] => none
  | a :: needle, c :: cs => if a = c then dropPrefix? needle cs else none

/-- What stands before and after the first occurrence of `needle`, if there is one. -/
def breakAt? (needle : List Char) : List Char → Option (List Char × List Char)
  | [] => (dropPrefix? needle []).map fun rest => ([], rest)
  | c :: cs =>
    match dropPrefix? needle (c :: cs) with
    | some rest => some ([], rest)
    | none => (breakAt? needle cs).map fun p => (c :: p.1, p.2)

/-- Whether a text occurs in another one. -/
def occursIn (needle cs : List Char) : Bool := (breakAt? needle cs).isSome

/-- The text with the first occurrence of `needle` replaced. -/
def replaceFirst (needle replacement cs : List Char) : List Char :=
  match breakAt? needle cs with
  | some (before, after) => before ++ replacement ++ after
  | none => cs

/-- The text with the occurrences of `needle` removed, from the front and without overlap; `fuel`
bounds their number. -/
def removeAllWithin (needle : List Char) : Nat → List Char → List Char
  | 0, cs => cs
  | fuel + 1, cs =>
    match breakAt? needle cs with
    | some (before, after) => before ++ removeAllWithin needle fuel after
    | none => cs

/-- The text with the occurrences of a `needle` that is not empty removed, from the front and
without overlap. -/
def removeAll (needle cs : List Char) : List Char := removeAllWithin needle cs.length cs

theorem eq_append_of_dropPrefix? {needle cs rest : List Char}
    (h : dropPrefix? needle cs = some rest) : cs = needle ++ rest := by
  induction needle generalizing cs with
  | nil => simpa [dropPrefix?] using h
  | cons a needle ih =>
    cases cs with
    | nil => simp [dropPrefix?] at h
    | cons c cs =>
      simp only [dropPrefix?] at h
      split at h
      · rename_i hac
        rw [ih h, hac, List.cons_append]
      · simp at h

/-- What stands before, the text that was found, and what stands after make up the whole. -/
theorem eq_append_of_breakAt? {needle cs before after : List Char}
    (h : breakAt? needle cs = some (before, after)) : cs = before ++ needle ++ after := by
  induction cs generalizing before with
  | nil =>
    simp only [breakAt?, Option.map_eq_some_iff, Prod.mk.injEq] at h
    obtain ⟨rest, hrest, rfl, rfl⟩ := h
    simpa using eq_append_of_dropPrefix? hrest
  | cons c cs ih =>
    simp only [breakAt?] at h
    split at h
    · rename_i rest hrest
      simp only [Option.some.injEq, Prod.mk.injEq] at h
      obtain ⟨rfl, rfl⟩ := h
      simpa using eq_append_of_dropPrefix? hrest
    · simp only [Option.map_eq_some_iff, Prod.mk.injEq] at h
      obtain ⟨⟨b, a⟩, hba, rfl, rfl⟩ := h
      rw [ih hba]; simp

end Vitae.Text
