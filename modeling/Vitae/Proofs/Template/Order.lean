import Mathlib.Order.Defs.Unbundled
import Vitae.Proofs.Decimal.Digits
import Vitae.Template.Catalogue

/-!
# The order of the catalogue

A template has a place in the catalogue when the digits of its id are decimal ones and not too many
(`sortKey?_eq_some_iff`). One template comes before another one (`Precedes`) by the number that its
digits spell, and then by its name; templates without digits come last. This is a strict total order on
ids, so that sorting does not depend on the order in which the templates are given
(`sorted?_eq_some_iff`, `byId_eq_of_perm`).
-/

namespace Vitae.Template

open Text Decimal

/-! ### The number of an id -/

/-- The digits of an id. -/
def digitsOf (id : String) : List Char := id.toList.filter isDigit

/-- All digits of an id are decimal ones. -/
def IsDecimal (id : String) : Prop := ∀ c ∈ digitsOf id, (decimalValue? c).isSome

instance (id : String) : Decidable (IsDecimal id) :=
  decidable_of_iff (((digitsOf id).all fun c => (decimalValue? c).isSome) = true) List.all_eq_true

/-- The values of the digits of an id. -/
def valuesOf (id : String) : List Nat := (digitsOf id).map fun c => (decimalValue? c).getD 0

/-- The number that the digits of an id spell; zero without digits. -/
def numberOf (id : String) : Nat := ofDigits (valuesOf id)

/-- The digits of an id spell a number, or there are none. -/
structure IsSortable (id : String) : Prop where
  /-- The digits are decimal ones. -/
  decimal : IsDecimal id
  /-- They are not too many. -/
  length : (digitsOf id).length ≤ digitLimit

/-- The place of a template whose digits spell a number. -/
def keyOf (id : String) : SortKey := ⟨(digitsOf id).isEmpty, numberOf id, id⟩

variable {id a b c : String}

/-- A number stays the same with zeros in front. -/
theorem ofDigits_replicate_append (n : Nat) (ds : List Nat) : ofDigits (List.replicate n 0 ++ ds) = ofDigits ds := by
  induction n with
  | zero => rfl
  | succ n ih => exact ih

theorem isDigit_of_mem_digitsOf {d : Char} (h : d ∈ digitsOf id) : isDigit d := (List.mem_filter.mp h).2

theorem mapM_digitsOf (h : IsDecimal id) : (digitsOf id).mapM decimalValue? = some (valuesOf id) := by
  refine mapM_eq_some fun d hd => ?_
  obtain ⟨n, hn⟩ := Option.isSome_iff_exists.mp (h d hd)
  rw [hn]
  rfl

theorem integer?_digitsOf_eq (h : digitsOf id ≠ []) : integer? (digitsOf id) =
    ((digitsOf id).mapM decimalValue?).bind fun ds =>
      if ds.length ≤ digitLimit then some ((ofDigits ds : Nat) : Int) else none := by
  rw [integer?_of_digits (fun _ => isDigit_of_mem_digitsOf) h, natural?_of_digits (fun _ => isDigit_of_mem_digitsOf) h]
  cases (digitsOf id).mapM decimalValue? with
  | none => rfl
  | some ds =>
    rw [Option.bind_some, Option.bind_some]
    split <;> rfl

/-- Digits spell a number when they are decimal ones and not too many. -/
theorem integer?_digitsOf_eq_some_iff (h : digitsOf id ≠ []) {n : Int} :
    integer? (digitsOf id) = some n ↔ IsSortable id ∧ n = numberOf id := by
  have hlength : (valuesOf id).length = (digitsOf id).length := List.length_map _
  rw [integer?_digitsOf_eq h]
  constructor
  · intro hn
    have hdecimal : IsDecimal id := by
      intro d hd
      rw [Option.isSome_iff_ne_none]
      intro hnone
      rw [mapM_eq_none hd hnone] at hn
      cases hn
    rw [mapM_digitsOf hdecimal, Option.bind_some, hlength] at hn
    split at hn
    · exact ⟨⟨hdecimal, ‹_›⟩, (Option.some.inj hn).symm⟩
    · cases hn
  · rintro ⟨hsortable, rfl⟩
    rw [mapM_digitsOf hsortable.decimal, Option.bind_some, hlength, if_pos hsortable.length]
    rfl

theorem isSortable_of_digitsOf_eq_nil (h : digitsOf id = []) : IsSortable id where
  decimal d hd := by
    rw [h] at hd
    cases hd
  length := by
    rw [h]
    exact Nat.zero_le _

theorem numberOf_of_digitsOf_eq_nil (h : digitsOf id = []) : numberOf id = 0 := by
  rw [numberOf, valuesOf, h]
  rfl

/-- A template has a place when its digits spell a number. -/
theorem sortKey?_eq_some_iff {k : SortKey} : sortKey? id = some k ↔ IsSortable id ∧ k = keyOf id := by
  rw [sortKey?, keyOf]
  change (if (digitsOf id).isEmpty then _ else (integer? (digitsOf id)).map _) = _ ↔ _
  by_cases hnil : digitsOf id = []
  · rw [numberOf_of_digitsOf_eq_nil hnil, hnil, List.isEmpty_nil, if_pos rfl, Option.some.injEq]
    exact ⟨fun h => ⟨isSortable_of_digitsOf_eq_nil hnil, h.symm⟩, fun h => h.2.symm⟩
  · rw [List.isEmpty_eq_false_iff.mpr hnil, if_neg Bool.false_ne_true, Option.map_eq_some_iff]
    constructor
    · rintro ⟨n, hn, rfl⟩
      obtain ⟨hsortable, rfl⟩ := (integer?_digitsOf_eq_some_iff hnil).mp hn
      exact ⟨hsortable, rfl⟩
    · rintro ⟨hsortable, rfl⟩
      exact ⟨_, (integer?_digitsOf_eq_some_iff hnil).mpr ⟨hsortable, rfl⟩, rfl⟩

theorem isSome_sortKey?_iff : (sortKey? id).isSome ↔ IsSortable id := by
  rw [Option.isSome_iff_exists]
  exact ⟨fun ⟨_, h⟩ => (sortKey?_eq_some_iff.mp h).1, fun h => ⟨_, sortKey?_eq_some_iff.mpr ⟨h, rfl⟩⟩⟩

/-! ### Which template comes first -/

/-- A template comes before another one in the catalogue. -/
inductive Precedes (a b : String) : Prop where
  /-- An id with digits comes before one without. -/
  | numbered (ha : digitsOf a ≠ []) (hb : digitsOf b = [])
  /-- Of two ids with digits the one with the smaller number comes first. -/
  | smaller (ha : digitsOf a ≠ []) (hb : digitsOf b ≠ []) (h : numberOf a < numberOf b)
  /-- Ids with the same number are ordered by name. -/
  | sameNumber (ha : digitsOf a ≠ []) (hb : digitsOf b ≠ []) (hnumber : numberOf a = numberOf b) (h : a < b)
  /-- So are ids without digits. -/
  | unnumbered (ha : digitsOf a = []) (hb : digitsOf b = []) (h : a < b)

namespace Precedes

theorem irrefl (a : String) : ¬ Precedes a a := by
  rintro (⟨ha, hb⟩ | ⟨-, -, h⟩ | ⟨-, -, -, h⟩ | ⟨-, -, h⟩)
  · exact ha hb
  · exact Nat.lt_irrefl _ h
  · exact String.lt_irrefl a h
  · exact String.lt_irrefl a h

theorem trans (hab : Precedes a b) (hbc : Precedes b c) : Precedes a c := by
  cases hab with
  | numbered ha hb =>
    cases hbc with
    | unnumbered _ hc _ => exact .numbered ha hc
    | numbered hb' _ => exact absurd hb hb'
    | smaller hb' _ _ => exact absurd hb hb'
    | sameNumber hb' _ _ _ => exact absurd hb hb'
  | smaller ha hb h =>
    cases hbc with
    | numbered _ hc => exact .numbered ha hc
    | smaller _ hc h' => exact .smaller ha hc (Nat.lt_trans h h')
    | sameNumber _ hc hnumber _ => exact .smaller ha hc (hnumber ▸ h)
    | unnumbered hb' _ _ => exact absurd hb' hb
  | sameNumber ha hb hnumber h =>
    cases hbc with
    | numbered _ hc => exact .numbered ha hc
    | smaller _ hc h' => exact .smaller ha hc (hnumber ▸ h')
    | sameNumber _ hc hnumber' h' => exact .sameNumber ha hc (hnumber.trans hnumber') (String.lt_trans h h')
    | unnumbered hb' _ _ => exact absurd hb' hb
  | unnumbered ha hb h =>
    cases hbc with
    | unnumbered _ hc h' => exact .unnumbered ha hc (String.lt_trans h h')
    | numbered hb' _ => exact absurd hb hb'
    | smaller hb' _ _ => exact absurd hb hb'
    | sameNumber hb' _ _ _ => exact absurd hb hb'

theorem asymm (hab : Precedes a b) (hba : Precedes b a) : False := irrefl a (hab.trans hba)

/-- Of two different ids one comes before the other. -/
theorem trichotomous (a b : String) : Precedes a b ∨ a = b ∨ Precedes b a := by
  have hnames : a < b ∨ a = b ∨ b < a := by
    by_cases hab : a < b
    · exact .inl hab
    · exact .inr ((Std.le_iff_lt_or_eq.mp (String.not_lt.mp hab)).symm.imp_left Eq.symm)
  by_cases ha : digitsOf a = []
  · by_cases hb : digitsOf b = []
    · exact hnames.imp (.unnumbered ha hb) (Or.imp_right (.unnumbered hb ha))
    · exact .inr (.inr (.numbered hb ha))
  · by_cases hb : digitsOf b = []
    · exact .inl (.numbered ha hb)
    · rcases Nat.lt_trichotomy (numberOf a) (numberOf b) with h | h | h
      · exact .inl (.smaller ha hb h)
      · exact hnames.imp (.sameNumber ha hb h) (Or.imp_right (.sameNumber hb ha h.symm))
      · exact .inr (.inr (.smaller hb ha h))

end Precedes

/-- Ids are ordered strictly and totally. -/
theorem isStrictTotalOrder_precedes : IsStrictTotalOrder String Precedes where
  irrefl := Precedes.irrefl
  trans _ _ _ := Precedes.trans
  trichotomous a b hab hba := ((Precedes.trichotomous a b).resolve_left hab).resolve_right hba

theorem SortKey.le_iff {j k : SortKey} : j.le k = true ↔
    j.unnumbered = false ∧ k.unnumbered = true ∨
      j.unnumbered = k.unnumbered ∧ (j.number < k.number ∨ j.number = k.number ∧ j.id ≤ k.id) := by
  rw [SortKey.le]
  split
  · rename_i hne
    cases hj : j.unnumbered <;> cases hk : k.unnumbered <;> simp_all
  · rename_i heq
    rw [not_not] at heq
    split
    · rename_i hnumber
      simp [heq, hnumber]
    · rename_i hnumber
      rw [not_not] at hnumber
      simp [heq, hnumber]

/-- Keys are ordered as the catalogue orders ids. -/
theorem le_keyOf_iff : (keyOf a).le (keyOf b) = true ↔ a = b ∨ Precedes a b := by
  have hempty : ∀ id, (keyOf id).unnumbered = true ↔ digitsOf id = [] := fun _ => List.isEmpty_iff
  have hfull : ∀ id, (keyOf id).unnumbered = false ↔ digitsOf id ≠ [] := fun _ => List.isEmpty_eq_false_iff
  rw [SortKey.le_iff]
  constructor
  · rintro (⟨ha, hb⟩ | ⟨hsame, h⟩)
    · exact .inr (.numbered ((hfull a).mp ha) ((hempty b).mp hb))
    · have hboth : digitsOf a = [] ↔ digitsOf b = [] := by rw [← hempty, ← hempty, hsame]
      rcases h with h | ⟨hnumber, h⟩
      · have h : numberOf a < numberOf b := Int.ofNat_lt.mp h
        by_cases ha : digitsOf a = []
        · rw [numberOf_of_digitsOf_eq_nil (hboth.mp ha)] at h
          exact absurd h (Nat.not_lt_zero _)
        · exact .inr (.smaller ha (mt hboth.mpr ha) h)
      · rcases Std.le_iff_lt_or_eq.mp h with h | h
        · by_cases ha : digitsOf a = []
          · exact .inr (.unnumbered ha (hboth.mp ha) h)
          · exact .inr (.sameNumber ha (mt hboth.mpr ha) (Int.ofNat_inj.mp hnumber) h)
        · exact .inl h
  · rintro (rfl | h)
    · exact .inr ⟨rfl, .inr ⟨rfl, String.le_refl a⟩⟩
    · cases h with
      | numbered ha hb => exact .inl ⟨(hfull a).mpr ha, (hempty b).mpr hb⟩
      | smaller ha hb h => exact .inr ⟨by rw [(hfull a).mpr ha, (hfull b).mpr hb], .inl (Int.ofNat_lt.mpr h)⟩
      | sameNumber ha hb hnumber h =>
        exact .inr ⟨by rw [(hfull a).mpr ha, (hfull b).mpr hb], .inr ⟨congrArg Int.ofNat hnumber, Std.le_of_lt h⟩⟩
      | unnumbered ha hb h =>
        refine .inr ⟨by rw [(hempty a).mpr ha, (hempty b).mpr hb], .inr ⟨?_, Std.le_of_lt h⟩⟩
        exact congrArg Int.ofNat
          ((numberOf_of_digitsOf_eq_nil ha).trans (numberOf_of_digitsOf_eq_nil hb).symm)

/-! ### Sorting -/

section sorting

variable {α : Type} {idOf : α → String} {things things' : List α}

/-- Things in the order of their ids. -/
def byId (idOf : α → String) (things : List α) : List α :=
  things.mergeSort fun x y => (keyOf (idOf x)).le (keyOf (idOf y))

theorem byId_perm (idOf : α → String) (things : List α) : (byId idOf things).Perm things := List.mergeSort_perm _ _

/-- Sorted things follow each other. -/
theorem pairwise_byId (idOf : α → String) (things : List α) :
    (byId idOf things).Pairwise fun x y => idOf x = idOf y ∨ Precedes (idOf x) (idOf y) := by
  refine (List.pairwise_mergeSort (fun x y z hxy hyz => ?_) (fun x y => ?_) things).imp fun h => le_keyOf_iff.mp h
  · rw [le_keyOf_iff] at hxy hyz ⊢
    rcases hxy with hxy | hxy
    · rwa [hxy]
    · rcases hyz with hyz | hyz
      · exact .inr (hyz ▸ hxy)
      · exact .inr (hxy.trans hyz)
  · rw [Bool.or_eq_true, le_keyOf_iff, le_keyOf_iff]
    rcases Precedes.trichotomous (idOf x) (idOf y) with h | h | h
    · exact .inl (.inr h)
    · exact .inl (.inl h)
    · exact .inr (.inr h)

/-- Things that their ids tell apart are sorted into the same list, in whatever order they are given. -/
theorem byId_eq_of_perm (hperm : things.Perm things')
    (hids : ∀ x ∈ things, ∀ y ∈ things, idOf x = idOf y → x = y) : byId idOf things = byId idOf things' := by
  refine List.Perm.eq_of_pairwise (fun x y hx hy hxy hyx => ?_) (pairwise_byId idOf things) (pairwise_byId idOf things')
    ((byId_perm idOf things).trans (hperm.trans (byId_perm idOf things').symm))
  have hx' := (byId_perm idOf things).mem_iff.mp hx
  have hy' := hperm.mem_iff.mpr ((byId_perm idOf things').mem_iff.mp hy)
  rcases hxy with hxy | hxy
  · exact hids x hx' y hy' hxy
  · rcases hyx with hyx | hyx
    · exact hids x hx' y hy' hyx.symm
    · exact absurd hyx hxy.asymm

/-- Things are sorted when each of them has a place. -/
theorem sorted?_eq_some_iff {ys : List α} :
    sorted? idOf things = some ys ↔ (∀ x ∈ things, IsSortable (idOf x)) ∧ ys = byId idOf things := by
  have hsorted : (∀ x ∈ things, IsSortable (idOf x)) → sorted? idOf things = some (byId idOf things) := by
    intro h
    have hkeyed : (things.mapM fun x => (sortKey? (idOf x)).map fun k => (k, x)) =
        some (things.map fun x => (keyOf (idOf x), x)) :=
      mapM_eq_some fun x hx => by rw [sortKey?_eq_some_iff.mpr ⟨h x hx, rfl⟩]; rfl
    have hsort : (things.map fun x => (keyOf (idOf x), x)).mergeSort (fun p q => p.1.le q.1) =
        (byId idOf things).map fun x => (keyOf (idOf x), x) := by
      refine (List.map_mergeSort ?_).symm
      intro x _ y _
      rfl
    rw [sorted?, hkeyed, Option.map_some, hsort, List.map_map]
    exact congrArg some (List.map_id _)
  constructor
  · intro h
    have hplaces : ∀ x ∈ things, IsSortable (idOf x) := by
      intro x hx
      rw [← isSome_sortKey?_iff, Option.isSome_iff_ne_none]
      intro hnone
      rw [sorted?, mapM_eq_none hx (by rw [hnone]; rfl)] at h
      cases h
    exact ⟨hplaces, Option.some.inj (h.symm.trans (hsorted hplaces))⟩
  · rintro ⟨h, rfl⟩
    exact hsorted h

end sorting

end Vitae.Template
