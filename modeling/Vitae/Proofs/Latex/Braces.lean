import Mathlib.Data.List.Basic
import Mathlib.Data.List.Infix

/-!
# Braces

A brace groups unless an odd number of backslashes stands directly in front of it. A
text is balanced when its groups are: read from the front, no group is closed that was
not opened, and none is open at the end. Whether the backslashes before the next
character are odd in number is all that has to be carried from one text to the next, so
a balanced text that does not end in such a backslash can be followed by any other
(`Balanced.append`), and lines that are balanced one by one make a balanced text
(`balanced_intercalate`).
-/

namespace Vitae.Latex

/-- Whether a text ends in an odd number of backslashes; `odd` tells it of the text before. -/
def endsOdd : Bool → List Char → Bool
  | odd, [] => odd
  | odd, c :: cs => endsOdd (c = '\\' && !odd) cs

/-- What a character adds to the depth; `odd` tells whether an odd number of backslashes
stands directly in front of it. -/
def weight (odd : Bool) (c : Char) : ℤ :=
  if odd then 0 else if c = '\x7b' then 1 else if c = '\x7d' then -1 else 0

/-- The number of groups that a text opens, less the number that it closes; `odd` tells
whether an odd number of backslashes stands directly in front of it. -/
def depth : Bool → List Char → ℤ
  | _, [] => 0
  | odd, c :: cs => weight odd c + depth (c = '\\' && !odd) cs

/-- A text whose groups are properly opened and closed. -/
structure Balanced (cs : List Char) : Prop where
  /-- No prefix closes more than it opens. -/
  nonneg : ∀ p, p <+: cs → 0 ≤ depth false p
  /-- All is closed at the end. -/
  closed : depth false cs = 0

theorem endsOdd_append (odd : Bool) (a b : List Char) :
    endsOdd odd (a ++ b) = endsOdd (endsOdd odd a) b := by
  induction a generalizing odd with
  | nil => rfl
  | cons c a ih => exact ih _

theorem depth_append (odd : Bool) (a b : List Char) :
    depth odd (a ++ b) = depth odd a + depth (endsOdd odd a) b := by
  induction a generalizing odd with
  | nil => simp [depth, endsOdd]
  | cons c a ih => simp only [List.cons_append, depth, endsOdd, ih]; omega

theorem balanced_nil : Balanced [] := ⟨fun _ hp => by simp [List.prefix_nil.mp hp, depth], rfl⟩

/-- Where a prefix of `a ++ b` ends: within `a`, or behind it. -/
theorem prefix_append_split {a b p : List Char} (h : p <+: a ++ b) :
    p <+: a ∨ ∃ q, p = a ++ q ∧ q <+: b := by
  by_cases hle : p.length ≤ a.length
  · exact .inl (List.prefix_of_prefix_length_le h (List.prefix_append a b) hle)
  · obtain ⟨q, rfl⟩ := List.prefix_of_prefix_length_le (List.prefix_append a b) h (by omega)
    exact .inr ⟨q, rfl, (List.prefix_append_right_inj a).mp h⟩

theorem Balanced.append {a b : List Char} (ha : Balanced a) (hodd : endsOdd false a = false)
    (hb : Balanced b) : Balanced (a ++ b) where
  nonneg := by
    intro p hp
    rcases prefix_append_split hp with hp | ⟨q, rfl, hq⟩
    · exact ha.nonneg p hp
    · rw [depth_append, ha.closed, hodd, Int.zero_add]
      exact hb.nonneg q hq
  closed := by rw [depth_append, ha.closed, hodd, hb.closed, Int.zero_add]

/-- A group is balanced when its text is. -/
theorem Balanced.group {cs : List Char} (h : Balanced cs) (hodd : endsOdd false cs = false) :
    Balanced ('\x7b' :: (cs ++ ['\x7d'])) := by
  have hopen : ∀ q, depth false ('\x7b' :: q) = 1 + depth false q := fun q => by simp [depth, weight]
  have hclose : depth false ['\x7d'] = -1 := rfl
  refine ⟨fun p hp => ?_, ?_⟩
  · rcases List.prefix_cons_iff.mp hp with rfl | ⟨q, rfl, hq⟩
    · exact Int.le_refl 0
    · rw [hopen]
      rcases prefix_append_split hq with hq | ⟨r, rfl, hr⟩
      · have := h.nonneg q hq
        omega
      · rw [depth_append, h.closed, hodd]
        rcases List.prefix_cons_iff.mp hr with rfl | ⟨t, rfl, ht⟩
        · simp [depth]
        · rw [List.prefix_nil.mp ht, hclose]
          omega
  · rw [hopen, depth_append, h.closed, hodd, hclose]
    omega

theorem endsOdd_group (cs : List Char) (hodd : endsOdd false cs = false) :
    endsOdd false ('\x7b' :: (cs ++ ['\x7d'])) = false := by
  show endsOdd false (cs ++ ['\x7d']) = false
  rw [endsOdd_append, hodd]
  rfl

/-- The end of a line does not matter to the groups, whatever stands in front of it. -/
theorem Balanced.append_feed {a b : List Char} (ha : Balanced a) (hb : Balanced b) :
    Balanced (a ++ '\n' :: b) := by
  have hfeed : ∀ odd q, depth odd ('\n' :: q) = depth false q := by
    intro odd q
    cases odd <;> simp [depth, weight]
  refine ⟨fun p hp => ?_, by rw [depth_append, ha.closed, hfeed, hb.closed, Int.zero_add]⟩
  rcases prefix_append_split hp with hp | ⟨q, rfl, hq⟩
  · exact ha.nonneg p hp
  · rw [depth_append, ha.closed, Int.zero_add]
    rcases List.prefix_cons_iff.mp hq with rfl | ⟨r, rfl, hr⟩
    · exact Int.le_refl 0
    · rw [hfeed]
      exact hb.nonneg r hr

/-- Lines that are balanced one by one make a balanced text. -/
theorem balanced_intercalate {ls : List (List Char)} (h : ∀ l ∈ ls, Balanced l) :
    Balanced (['\n'].intercalate ls) := by
  induction ls with
  | nil => exact balanced_nil
  | cons l ls ih =>
    have hl := h l List.mem_cons_self
    cases ls with
    | nil => rwa [List.intercalate_singleton]
    | cons m ls =>
      rw [List.intercalate_cons_cons, List.append_assoc, List.singleton_append]
      exact hl.append_feed (ih fun k hk => h k (List.mem_cons_of_mem _ hk))

/-! ### Texts without braces and backslashes -/

/-- The characters that group or escape. -/
def isGrouping (c : Char) : Bool := c = '\\' || c = '\x7b' || c = '\x7d'

/-- A character of which something holds that does not hold of what groups. -/
theorem isGrouping_eq_false_of (p : Char → Prop) {c : Char} (hc : p c)
    (hp : ¬ p '\\' ∧ ¬ p '\x7b' ∧ ¬ p '\x7d') : isGrouping c = false := by
  simp only [isGrouping, Bool.or_eq_false_iff, decide_eq_false_iff_not]
  refine ⟨⟨?_, ?_⟩, ?_⟩
  · rintro rfl
    exact hp.1 hc
  · rintro rfl
    exact hp.2.1 hc
  · rintro rfl
    exact hp.2.2 hc

theorem depth_cons_of_not_isGrouping {c : Char} (hc : isGrouping c = false) (cs : List Char) :
    depth false (c :: cs) = depth false cs := by
  simp only [isGrouping, Bool.or_eq_false_iff, decide_eq_false_iff_not] at hc
  simp [depth, weight, hc]

theorem endsOdd_cons_of_not_isGrouping {c : Char} (hc : isGrouping c = false) (odd : Bool)
    (cs : List Char) : endsOdd odd (c :: cs) = endsOdd false cs := by
  simp only [isGrouping, Bool.or_eq_false_iff, decide_eq_false_iff_not] at hc
  simp [endsOdd, hc]

theorem depth_of_not_isGrouping {cs : List Char} (h : ∀ c ∈ cs, isGrouping c = false) :
    depth false cs = 0 := by
  induction cs with
  | nil => rfl
  | cons c cs ih =>
    rw [depth_cons_of_not_isGrouping (h c List.mem_cons_self),
      ih fun d hd => h d (List.mem_cons_of_mem _ hd)]

theorem balanced_of_not_isGrouping {cs : List Char} (h : ∀ c ∈ cs, isGrouping c = false) :
    Balanced cs where
  nonneg := by
    intro p hp
    exact Int.le_of_eq (depth_of_not_isGrouping fun c hc => h c (hp.subset hc)).symm
  closed := depth_of_not_isGrouping h

theorem endsOdd_of_not_isGrouping {cs : List Char} (h : ∀ c ∈ cs, isGrouping c = false) :
    endsOdd false cs = false := by
  induction cs with
  | nil => rfl
  | cons c cs ih =>
    rw [endsOdd_cons_of_not_isGrouping (h c List.mem_cons_self),
      ih fun d hd => h d (List.mem_cons_of_mem _ hd)]

/-! ### A check -/

/-- A text that closes all of its groups and `d` others, and does not end in an odd number of
backslashes; `odd` tells whether such a number stands directly in front of it. -/
structure Closes (odd : Bool) (d : Nat) (cs : List Char) : Prop where
  /-- No prefix closes more than it opens and `d` others. -/
  nonneg : ∀ p, p <+: cs → 0 ≤ d + depth odd p
  /-- All is closed at the end. -/
  closed : d + depth odd cs = 0
  /-- The backslashes at its end are even in number. -/
  even : endsOdd odd cs = false

theorem closes_nil : Closes false 0 [] := by
  refine ⟨fun p hp => ?_, rfl, rfl⟩
  rw [List.prefix_nil.mp hp]
  exact Int.le_refl 0

/-- One more character in front changes the number of open groups by its weight. -/
theorem Closes.cons {odd : Bool} {d e : Nat} {c : Char} {cs : List Char}
    (h : Closes (c = '\\' && !odd) e cs) (he : d + weight odd c = e) : Closes odd d (c :: cs) where
  nonneg := by
    intro p hp
    rcases List.prefix_cons_iff.mp hp with rfl | ⟨q, rfl, hq⟩
    · simp [depth]
    · have hnonneg := h.nonneg q hq
      simp only [depth]
      omega
  closed := by
    have hclosed := h.closed
    simp only [depth]
    omega
  even := h.even

/-- Whether a text closes all groups, in one pass over it. -/
def closesAll : Bool → Nat → List Char → Bool
  | odd, d, [] => !odd && d = 0
  | odd, d, c :: cs =>
    if c = '\\' then closesAll (!odd) d cs
    else if odd then closesAll false d cs
    else if c = '\x7b' then closesAll false (d + 1) cs
    else if c = '\x7d' then d ≠ 0 && closesAll false (d - 1) cs
    else closesAll false d cs

theorem closes_of_closesAll {odd : Bool} {d : Nat} {cs : List Char} (h : closesAll odd d cs) :
    Closes odd d cs := by
  induction cs generalizing odd d with
  | nil =>
    simp only [closesAll, Bool.and_eq_true, Bool.not_eq_true', decide_eq_true_eq] at h
    obtain ⟨rfl, rfl⟩ := h
    exact closes_nil
  | cons c cs ih =>
    by_cases hc : c = '\\'
    · have hweight : weight odd c = 0 := by cases odd <;> simp [weight, hc]
      have hrest : closesAll (!odd) d cs := by simpa [closesAll, hc] using h
      exact Closes.cons (e := d) (by simpa [hc] using ih hrest) (by omega)
    · cases odd with
      | true =>
        have hrest : closesAll false d cs := by simpa [closesAll, hc] using h
        exact Closes.cons (e := d) (by simpa [hc] using ih hrest) (by simp [weight])
      | false =>
        simp only [closesAll, hc, if_false, Bool.false_eq_true] at h
        split at h
        · rename_i hopen
          exact Closes.cons (e := d + 1) (by simpa [hc] using ih h) (by simp [weight, hopen])
        · rename_i hopen
          split at h
          · rename_i hclose
            simp only [Bool.and_eq_true, decide_eq_true_eq] at h
            have hpos := Nat.pos_of_ne_zero h.1
            have hweight : weight false c = -1 := by simp [weight, hclose]
            exact Closes.cons (e := d - 1) (by simpa [hc] using ih h.2) (by omega)
          · rename_i hclose
            exact Closes.cons (e := d) (by simpa [hc] using ih h) (by simp [weight, hopen, hclose])

theorem balanced_of_closesAll {cs : List Char} (h : closesAll false 0 cs) :
    Balanced cs ∧ endsOdd false cs = false := by
  have hcloses := closes_of_closesAll h
  exact ⟨⟨fun p hp => by simpa using hcloses.nonneg p hp, by simpa using hcloses.closed⟩, hcloses.even⟩

end Vitae.Latex
