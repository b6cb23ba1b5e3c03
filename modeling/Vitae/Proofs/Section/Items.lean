import Vitae.Proofs.Latex.Options
import Vitae.Proofs.Section.Entries

/-!
# Items and their labels

The optional argument of an item is its label: when the first character behind the command
that is no space is a bracket, what stands up to the next closing bracket outside of groups
is the label, and only what follows is the text of the item.

Escaping leaves a bracket as it is. So the items of a bullet list are read as the escaped
texts that show something exactly when none of these texts begins with a bracket
(`itemsOf_bullets_iff`); a text that does loses its beginning (`itemsOf_bullets_dated`).
-/

namespace Vitae.Section

open Text Latex

/-! ### The reader -/

/-- An item as it is read. -/
structure Item where
  /-- Its label, if it has one. -/
  label : Option String
  /-- Its text. -/
  content : String
  deriving DecidableEq

/-- What stands behind the command of an item. -/
def itemText? (l : String) : Option (List Char) :=
  (front? l).bind fun p => if p.1 = "item" then some p.2 else none

/-- An item from what is read behind its command. -/
def itemOf (r : Reading) : Item := ⟨r.argument.map textOf, textOf (dropSpaces r.content)⟩

/-- The items of a bullet list; nothing if a label is never closed. -/
def itemsOf (b : Block) : Option (List Item) :=
  (readOptions (signs " \\item".toList) dropSpaces none ((b.filterMap itemText?).map signs)).map (·.map itemOf)

/-! ### Reading an item -/

/-- What stands behind the command of an item with a text. -/
def behindCommand (t : String) : List Sign := signs (' ' :: t.toList)

theorem weigh_behindCommand (t : String) : weigh (behindCommand t).flatten = weigh t.toList := by
  have hspace : weigh [' '] = 0 := by decide
  rw [behindCommand, flatten_signs, ← List.singleton_append, weigh_append, hspace, Nat.zero_add]

theorem weigh_content (r : Reading) : weigh (itemOf r).content.toList = weigh r.content.flatten := by
  rw [itemOf, textOf, String.toList_ofList, weigh_dropSpaces]

section

variable {t : String} (ht : t.toList.head? ≠ some ' ')
include ht

theorem dropSpaces_behindCommand : dropSpaces (behindCommand t) = signs t.toList := by
  rw [behindCommand, dropSpaces, signs_cons (by decide), List.dropWhile_cons_of_pos (by decide)]
  exact dropSpaces_signs ht

/-- A label begins where the text begins with a bracket. -/
theorem opened?_behindCommand : opened? (dropSpaces (behindCommand t)) = none ↔ t.toList.head? ≠ some '[' := by
  rw [opened?_eq_none_iff, dropSpaces_behindCommand ht, ne_eq, head?_signs (by decide)]

/-- Without a label the text is read. -/
theorem itemOf_behindCommand : itemOf ⟨none, dropSpaces (behindCommand t)⟩ = ⟨none, t⟩ := by
  rw [itemOf, dropSpaces_behindCommand ht, dropSpaces_signs ht, textOf, flatten_signs, String.ofList_toList]
  rfl

end

/-! ### Reading items -/

/-- The items with the given texts, as they are read. -/
def readItems (texts : List String) : Option (List Item) :=
  (readOptions (signs " \\item".toList) dropSpaces none (texts.map behindCommand)).map (·.map itemOf)

section

variable {texts : List String} (hspace : ∀ t ∈ texts, t.toList.head? ≠ some ' ')
include hspace

/-- Texts that do not begin with a bracket are read as they are. -/
theorem readItems_of_forall (h : ∀ t ∈ texts, t.toList.head? ≠ some '[') :
    readItems texts = some (texts.map fun t => ⟨none, t⟩) := by
  have hopened : ∀ t ∈ texts.map behindCommand, opened? (dropSpaces t) = none :=
    List.forall_mem_map.mpr fun t ht => (opened?_behindCommand (hspace t ht)).mpr (h t ht)
  rw [readItems, readOptions_of_forall hopened, Option.map_some, List.map_map, List.map_map]
  exact congrArg some (List.map_congr_left fun t ht => itemOf_behindCommand (hspace t ht))

/-- Other texts are not, as a label takes a part of them. -/
theorem head?_ne_of_readItems (h : (readItems texts).map (·.map Item.content) = some texts) :
    ∀ t ∈ texts, t.toList.head? ≠ some '[' := by
  intro t ht
  rw [readItems, Option.map_map] at h
  obtain ⟨rs, hrs, hcontent⟩ := Option.map_eq_some_iff.mp h
  have hweigh : (rs.map fun r => weigh r.content.flatten) = (texts.map behindCommand).map fun t => weigh t.flatten := by
    have hsame := congrArg (List.map fun t => weigh t.toList) hcontent
    simpa [weigh_content, weigh_behindCommand, Function.comp_def] using hsame
  have hnone := opened?_of_readOptions (fun t => (weigh_dropSpaces t).le) hrs hweigh
  exact (opened?_behindCommand (hspace t ht)).mp (hnone _ (List.mem_map_of_mem ht)).1

end

/-! ### Bullets -/

/-- What stands in front of a line does not change its command. -/
theorem itemText?_indented (l : String) : itemText? (bulletIndent ++ l) = itemText? l := by
  have hindent : ∀ c ∈ bulletIndent.toList, (c = ' ' : Bool) = true := List.all_eq_true.mp (by decide)
  rw [itemText?, itemText?, front?, front?, String.toList_append, List.dropWhile_append_of_pos hindent]

theorem itemText?_item (t : String) : itemText? (bulletIndent ++ "\\item " ++ t) = some (' ' :: t.toList) := by
  have hindent : bulletIndent.toList.all (· = ' ') := by decide
  have hfront : front? (bulletIndent ++ "\\item " ++ t) = some ("item", ' ' :: t.toList) :=
    front?_of_toList hindent (by decide) (by decide) (by simp [String.toList_append])
  rw [itemText?, hfront]
  rfl

/-- What stands behind the commands of the items of a list. -/
theorem filterMap_itemText?_bullets {gap : Option String} (hgap : ∀ g ∈ gap, itemText? g = none)
    (texts : List (Option String)) :
    (bullets gap texts).filterMap itemText? = ((texts.filter isVisible).map escape?).map (' ' :: ·.toList) := by
  have hgaps : ((gap.filter (· ≠ "")).map (bulletIndent ++ ·)).toList.filterMap itemText? = [] := by
    cases gap with
    | none => rfl
    | some g =>
      have hg := hgap g rfl
      by_cases hne : g = ""
      · simp [hne]
      · simp [hne, itemText?_indented, hg]
  have hfixed : itemText? (entryIndent ++ "\\begin\x7bitemize\x7d") = none ∧
      itemText? (bulletIndent ++ "\\itemsep -6pt \x7b\x7d") = none ∧
      itemText? (entryIndent ++ "\\end\x7bitemize\x7d") = none := by
    decide
  have hitems : ∀ items : List String, (items.map (bulletIndent ++ "\\item " ++ ·)).filterMap itemText? =
      items.map (' ' :: ·.toList) := by
    intro items
    rw [List.filterMap_map, ← List.filterMap_eq_map]
    exact List.filterMap_congr fun t _ => itemText?_item t
  rw [bullets, filter_escape?_eq]
  generalize (texts.filter isVisible).map escape? = items
  by_cases hnil : items = []
  · simp only [hnil, if_pos]
    rfl
  · simp only [if_neg hnil, List.filterMap_append, hgaps, hitems]
    simp [hfixed]

/-- No text begins with a bracket. -/
def Unbracketed (texts : List (Option String)) : Prop := ∀ s, some s ∈ texts → ¬ Begins '[' s

theorem unbracketed_iff (texts : List (Option String)) :
    Unbracketed texts ↔ ∀ t ∈ (texts.filter isVisible).map escape?, t.toList.head? ≠ some '[' := by
  have hhead : ∀ s, (escape s).toList.head? = some '[' ↔ Begins '[' s := fun s => head?_escape (by decide) (by decide) s
  have hshown : ∀ s, Begins '[' s → isVisible (some s) = true := by
    intro s hs
    obtain ⟨rest, hrest⟩ := List.head?_eq_some_iff.mp hs
    exact isVisible_some_iff.mpr ⟨'[', mem_of_mem_dropBlanks (hrest ▸ List.mem_cons_self), by decide⟩
  rw [List.forall_mem_map]
  constructor
  · intro h value hvalue
    cases value with
    | none => simp [escape?]
    | some s => exact fun hbracket => h s (List.mem_filter.mp hvalue).1 ((hhead s).mp hbracket)
  · intro h s hs hbegins
    exact h (some s) (List.mem_filter.mpr ⟨hs, hshown s hbegins⟩) ((hhead s).mpr hbegins)

/-- The items of a bullet list are read as the escaped texts that show something, without labels, exactly
when no text begins with a bracket; else other contents are read, and a bracket stands behind the command of
an item. -/
theorem itemsOf_bullets_iff {gap : Option String} (hgap : ∀ g ∈ gap, itemText? g = none) (texts : List (Option String)) :
    (itemsOf (bullets gap texts) = some ((texts.filter isVisible).map fun value => ⟨none, escape? value⟩) ↔
      Unbracketed texts) ∧
    ((itemsOf (bullets gap texts)).map (·.map Item.content) = some ((texts.filter isVisible).map escape?) ↔
      Unbracketed texts) ∧
    ((∀ l ∈ bullets gap texts, ∀ rest, itemText? l = some rest → (rest.dropWhile (· = ' ')).head? ≠ some '[') ↔
      Unbracketed texts) := by
  have hspace : ∀ t ∈ (texts.filter isVisible).map escape?, t.toList.head? ≠ some ' ' :=
    List.forall_mem_map.mpr fun value _ => head?_escape?_ne value
  have hitems : itemsOf (bullets gap texts) = readItems ((texts.filter isVisible).map escape?) := by
    rw [itemsOf, filterMap_itemText?_bullets hgap, List.map_map]
    rfl
  have hplain : ((texts.filter isVisible).map fun value => (⟨none, escape? value⟩ : Item)) =
      ((texts.filter isVisible).map escape?).map fun t => ⟨none, t⟩ := by
    rw [List.map_map]
    rfl
  have hlines : (∀ l ∈ bullets gap texts, ∀ rest, itemText? l = some rest → (rest.dropWhile (· = ' ')).head? ≠ some '[') ↔
      ∀ rest ∈ (bullets gap texts).filterMap itemText?, (rest.dropWhile (· = ' ')).head? ≠ some '[' := by
    simp only [List.mem_filterMap]
    constructor
    · rintro h rest ⟨l, hl, hrest⟩
      exact h l hl rest hrest
    · intro h l hl rest hrest
      exact h rest ⟨l, hl, hrest⟩
  rw [unbracketed_iff, hitems, hplain, hlines, filterMap_itemText?_bullets hgap]
  generalize (texts.filter isVisible).map escape? = shown at hspace
  have hmap : (shown.map fun t => (⟨none, t⟩ : Item)).map Item.content = shown := by
    rw [List.map_map]
    exact List.map_id shown
  refine ⟨⟨fun h => head?_ne_of_readItems hspace ?_, readItems_of_forall hspace⟩,
    ⟨head?_ne_of_readItems hspace, fun h => ?_⟩, List.forall_mem_map.trans (forall₂_congr fun t ht => ?_)⟩
  · rw [h, Option.map_some, hmap]
  · rw [readItems_of_forall hspace h, Option.map_some, hmap]
  · rw [dropWhile_space (hspace t ht)]

/-- Brackets within a text do no harm. -/
theorem itemsOf_bullets_iff_volunteerGap :
    (∀ g ∈ some volunteerGap, itemText? g = none) ∧
    (itemsOf (bullets (some volunteerGap) [some "Led [two] teams", none]) = some [⟨none, "Led [two] teams"⟩] ↔
      Unbracketed [some "Led [two] teams", none]) := by
  have hgap : ∀ g ∈ some volunteerGap, itemText? g = none := by decide
  exact ⟨hgap, (itemsOf_bullets_iff hgap [some "Led [two] teams", none]).1⟩

/-- A text that begins with a year in brackets loses the year. -/
theorem itemsOf_bullets_dated :
    itemsOf (bullets none [some "[2020] Led the migration"]) = some [⟨some "2020", "Led the migration"⟩] ∧
    (itemsOf (bullets none [some "[2020] Led the migration"])).map (·.map Item.content) ≠
      some [escape "[2020] Led the migration"] := by
  decide

end Vitae.Section
