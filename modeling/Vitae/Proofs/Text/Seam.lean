import Mathlib.Data.List.Infix
import Vitae.Proofs.Text.Search

/-!
# Seams

Where texts are put together another text may come to stand that stands in none of them.
`Separate n a b` says that this does not happen to `n` where `b` is put behind `a`, and
`Sealed n u m v` that `n` neither comes to stand where `m` is put between `u` and `v`, nor
stands in `m`. So the only occurrence of `n` in a text stays the only one when something
sealed is put in elsewhere (`OnlyAt.insert`), and none is left when something sealed is
put in its place (`OnlyAt.not_infix`).
-/

namespace Vitae.Text

variable {n a b u m v : List Char}

/-- What occurs in two texts, one behind the other, occurs in one of them. -/
def Separate (n a b : List Char) : Prop :=
  ∀ x y, a ++ b = x ++ n ++ y →
    (∃ z, a = x ++ n ++ z ∧ y = z ++ b) ∨ ∃ z, b = z ++ n ++ y ∧ x = a ++ z

/-- What comes up over the seam ends the first text with its beginning `w` and begins the second one with
its rest `k`. -/
theorem separate_of_not_over (h : ∀ w k, n = w ++ k → w ≠ [] → k ≠ [] → w <:+ a → ¬ k <+: b) :
    Separate n a b := by
  intro x y hxy
  rw [List.append_assoc] at hxy
  rcases List.append_eq_append_iff.mp hxy with ⟨z, hx, hb⟩ | ⟨w, ha, hny⟩
  · exact .inr ⟨z, by rw [hb, List.append_assoc], hx⟩
  · rcases List.append_eq_append_iff.mp hny with ⟨k, hw, hy⟩ | ⟨k, hn, hb⟩
    · exact .inl ⟨k, by rw [ha, hw, List.append_assoc], hy⟩
    · by_cases hw : w = []
      · subst hw
        refine .inr ⟨[], ?_, by simpa using ha.symm⟩
        rw [hb, hn, List.nil_append, List.nil_append]
      · by_cases hk : k = []
        · subst hk
          refine .inl ⟨[], ?_, by simpa using hb.symm⟩
          rw [ha, hn, List.append_nil, List.append_nil]
        · exact absurd ⟨y, hb.symm⟩ (h w k hn hw hk ⟨x, ha.symm⟩)

/-- No beginning of `n` stands at the end of the first text. -/
theorem separate_of_not_suffix (h : ∀ w k, n = w ++ k → w ≠ [] → k ≠ [] → ¬ w <:+ a) : Separate n a b :=
  separate_of_not_over fun w k hn hw hk hsuffix => absurd hsuffix (h w k hn hw hk)

/-- No rest of `n` stands at the front of the second text. -/
theorem separate_of_not_begins (h : ∀ w k, n = w ++ k → w ≠ [] → k ≠ [] → ¬ k <+: b) : Separate n a b :=
  separate_of_not_over fun w k hn hw hk _ => h w k hn hw hk

/-- What stands at the end of a text ends like the text. -/
theorem getLast?_of_suffix {w : List Char} (h : w <:+ a) (hw : w ≠ []) : w.getLast? = a.getLast? := by
  obtain ⟨x, rfl⟩ := h
  rw [List.getLast?_append_of_ne_nil x hw]

/-- A rest of `n` that is not all of it is one of those behind its first character. -/
theorem mem_tails_tail {w k : List Char} (h : n = w ++ k) (hw : w ≠ []) : k ∈ n.tail.tails := by
  obtain ⟨c, w, rfl⟩ := List.exists_cons_of_ne_nil hw
  rw [h]
  exact (List.mem_tails _ _).mpr ⟨w, rfl⟩

theorem separate_nil (n b : List Char) : Separate n [] b :=
  separate_of_not_suffix fun _ _ _ hw _ hsuffix => hw (List.suffix_nil.mp hsuffix)

/-- The first text ends in a character that `n` does not hold. -/
theorem separate_concat {d : Char} (h : d ∉ n) : Separate n (a ++ [d]) b := by
  refine separate_of_not_suffix fun w k hn hw _ ⟨x, hx⟩ => h ?_
  obtain ⟨w, e, rfl⟩ := List.eq_nil_or_concat w |>.resolve_left hw
  rw [List.concat_eq_append, ← List.append_assoc] at hx
  obtain rfl := List.singleton_inj.mp (List.append_inj' hx rfl).2
  rw [hn]
  simp

/-- The second text begins with a character that `n` does not hold, or is empty. -/
theorem separate_of_head? (h : ∀ d ∈ b.head?, d ∉ n) : Separate n a b := by
  refine separate_of_not_begins fun w k hn _ hk ⟨y, hb⟩ => ?_
  obtain ⟨d, k, rfl⟩ := List.exists_cons_of_ne_nil hk
  exact h d (by rw [← hb]; rfl) (by rw [hn]; simp)

/-- The second text begins with a character that `n` does not hold. -/
theorem separate_cons {d : Char} (h : d ∉ n) : Separate n a (d :: b) := by
  refine separate_of_head? fun e he => ?_
  obtain rfl := Option.some.inj he
  exact h

theorem Separate.not_infix (h : Separate n a b) (ha : ¬ n <:+: a) (hb : ¬ n <:+: b) : ¬ n <:+: a ++ b := by
  rintro ⟨x, y, hxy⟩
  rcases h x y hxy.symm with ⟨z, hz, -⟩ | ⟨z, hz, -⟩
  · exact ha ⟨x, z, hz.symm⟩
  · exact hb ⟨z, y, hz.symm⟩

/-- What occurs in three texts, one behind the other, does not come to stand with the middle one. -/
def Sealed (n u m v : List Char) : Prop :=
  ∀ x y, u ++ (m ++ v) = x ++ n ++ y →
    (∃ z, u = x ++ n ++ z ∧ y = z ++ (m ++ v)) ∨ ∃ z, v = z ++ n ++ y ∧ x = u ++ (m ++ z)

theorem sealed_of_separate (hfront : Separate n u (m ++ v)) (hback : Separate n m v) (hm : ¬ n <:+: m) :
    Sealed n u m v := by
  intro x y hxy
  rcases hfront x y hxy with hu | ⟨z, hz, hx⟩
  · exact .inl hu
  · rcases hback z y hz with ⟨w, hw, -⟩ | ⟨w, hw, hzw⟩
    · exact absurd ⟨z, w, hw.symm⟩ hm
    · exact .inr ⟨w, hw, by rw [hx, hzw]⟩

/-- A text with its only occurrence of `n`. -/
structure OnlyAt (n cs b a : List Char) : Prop where
  /-- It stands between these two. -/
  eq : cs = b ++ n ++ a
  /-- There is no other one. -/
  unique : ∀ x y, cs = x ++ n ++ y → x = b

/-- An occurrence between two texts without one is the only one if none comes up at its ends. -/
theorem onlyAt_of_separate (hu : ¬ n <:+: u) (hv : ¬ n <:+: v) (hfront : Separate n u (n ++ v))
    (hback : Separate n n v) : OnlyAt n (u ++ n ++ v) u v := by
  refine ⟨rfl, fun x y hxy => ?_⟩
  rw [List.append_assoc] at hxy
  rcases hfront x y hxy with ⟨z, hz, -⟩ | ⟨z, hz, hx⟩
  · exact absurd ⟨x, z, hz.symm⟩ hu
  · rcases hback z y hz with ⟨w, hw, -⟩ | ⟨w, hw, -⟩
    · have hlength := congrArg List.length hw
      simp only [List.length_append] at hlength
      have hnil : z = [] := List.length_eq_zero_iff.mp (by omega)
      rw [hx, hnil, List.append_nil]
    · exact absurd ⟨w, y, hw.symm⟩ hv

/-- A text with something put in. -/
def PutIn (m x x' : List Char) : Prop := ∃ p q, x = p ++ q ∧ x' = p ++ (m ++ q)

/-- There is no occurrence in a text with something sealed in it if there was none before. -/
theorem Sealed.not_infix (hs : Sealed n u m v) (h : ¬ n <:+: u ++ v) : ¬ n <:+: u ++ (m ++ v) := by
  rintro ⟨x, y, hxy⟩
  rcases hs x y hxy.symm with ⟨z, hz, -⟩ | ⟨z, hz, -⟩
  · exact h ⟨x, z ++ v, by rw [hz]; simp⟩
  · exact h ⟨u ++ z, y, by rw [hz]; simp⟩

/-- Something sealed in the place of the only occurrence leaves none. -/
theorem OnlyAt.not_infix {cs : List Char} (h : OnlyAt n cs u v) (hn : n ≠ []) (hs : Sealed n u m v) :
    ¬ n <:+: u ++ (m ++ v) := by
  have hpos := List.length_pos_iff.mpr hn
  rintro ⟨x, y, hxy⟩
  rcases hs x y hxy.symm with ⟨z, hz, -⟩ | ⟨z, hz, -⟩
  · have hx := h.unique x (z ++ n ++ v) (by rw [h.eq, hz]; simp)
    have hlength := congrArg List.length hz
    rw [hx] at hlength
    simp only [List.length_append] at hlength
    omega
  · have hx := h.unique (u ++ n ++ z) y (by rw [h.eq, hz]; simp)
    have hlength := congrArg List.length hx
    simp only [List.length_append] at hlength
    omega

/-- The only occurrence stays the only one when something sealed is put in on one side of it. -/
theorem OnlyAt.insert {p q : List Char} (h : OnlyAt n (p ++ q) b a) (hn : n ≠ []) (hpq : Separate n p q)
    (hs : Sealed n p m q) :
    ∃ b' a', OnlyAt n (p ++ (m ++ q)) b' a' ∧ (PutIn m b b' ∧ a' = a ∨ b' = b ∧ PutIn m a a') := by
  have hpos := List.length_pos_iff.mpr hn
  have hfront : ∀ x z, p = x ++ n ++ z → x = b := fun x z hz =>
    h.unique x (z ++ q) (by rw [hz, List.append_assoc])
  have hback : ∀ z y, q = z ++ n ++ y → p ++ z = b := fun z y hz =>
    h.unique (p ++ z) y (by rw [hz]; simp)
  rcases hpq b a h.eq with ⟨w, hw, ha⟩ | ⟨w, hw, hb⟩
  · refine ⟨b, w ++ (m ++ q), ⟨by rw [hw, List.append_assoc], fun x y hxy => ?_⟩, .inr ⟨rfl, w, q, ha, rfl⟩⟩
    rcases hs x y hxy with ⟨z, hz, -⟩ | ⟨z, hz, -⟩
    · exact hfront x z hz
    · have hlength := congrArg List.length (hback z y hz)
      rw [hw] at hlength
      simp only [List.length_append] at hlength
      omega
  · refine ⟨p ++ (m ++ w), a, ⟨by rw [hw]; simp, fun x y hxy => ?_⟩, .inl ⟨⟨p, w, hb, rfl⟩, rfl⟩⟩
    rcases hs x y hxy with ⟨z, hz, -⟩ | ⟨z, hz, hx⟩
    · have hlength := congrArg List.length hz
      rw [hfront x z hz, hb] at hlength
      simp only [List.length_append] at hlength
      omega
    · have hzw : p ++ z = p ++ w := by rw [hback z y hz, hb]
      rw [hx, List.append_cancel_left hzw]

/-! ### Replacing -/

theorem replaceFirst_of_not_infix {cs : List Char} (h : ¬ n <:+: cs) (r : List Char) :
    replaceFirst n r cs = cs := by
  rw [replaceFirst, breakAt?_of_not_infix h]

/-- What stands in a text with something sealed in it stands there with anything else in its place. -/
theorem Sealed.infix_replaced (hs : Sealed n u m v) (h : n <:+: u ++ (m ++ v)) (r : List Char) :
    n <:+: u ++ (r ++ v) := by
  obtain ⟨x, y, hxy⟩ := h
  rcases hs x y hxy.symm with ⟨z, hz, -⟩ | ⟨z, hz, -⟩
  · exact ⟨x, z ++ (r ++ v), by rw [hz, List.append_assoc _ z]⟩
  · exact ⟨u ++ (r ++ z), y, by rw [hz]; simp⟩

/-- Replacing one text by another neither loses nor makes what both are sealed off from. -/
theorem infix_replaceFirst_iff {r cs : List Char} (hm : ∀ u v, Sealed n u m v) (hr : ∀ u v, Sealed n u r v) :
    n <:+: replaceFirst m r cs ↔ n <:+: cs := by
  rw [replaceFirst]
  cases hfound : breakAt? m cs with
  | none => rfl
  | some p =>
    obtain ⟨before, after⟩ := p
    rw [eq_append_of_breakAt? hfound]
    simp only [List.append_assoc]
    exact ⟨fun h => (hr before after).infix_replaced h m, fun h => (hm before after).infix_replaced h r⟩

/-- Only what was searched for is replaced. -/
theorem OnlyAt.replaceFirst_eq {cs : List Char} (h : OnlyAt n cs b a) (r : List Char) :
    replaceFirst n r cs = b ++ (r ++ a) := by
  obtain ⟨before, after, hfound, -⟩ := exists_breakAt? h.eq
  have hcs := eq_append_of_breakAt? hfound
  obtain rfl := h.unique before after hcs
  obtain rfl : a = after := List.append_cancel_left (h.eq.symm.trans hcs)
  rw [replaceFirst, hfound]
  exact List.append_assoc _ _ _

end Vitae.Text
