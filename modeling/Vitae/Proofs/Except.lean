import Mathlib.Data.List.Basic

/-!
# Computations that can fail

A computation in steps succeeds when its steps do, each with the result of the one before
(`exists_of_bind_eq_ok`), items are read one after the other when each of them can be
read (`exists_mapM_iff`), and some of them are kept when each of them can be judged
(`filterM_eq_ok`, `forall_ok_of_filterM`).
-/

namespace Vitae

variable {ε α β : Type}

/-- What is computed in two steps. -/
theorem exists_of_bind_eq_ok {x : Except ε α} {f : α → Except ε β} {y : β}
    (h : x >>= f = .ok y) : ∃ z, x = .ok z ∧ f z = .ok y := by
  cases x with
  | error e => exact absurd h (by simp [bind, Except.bind])
  | ok z => exact ⟨z, rfl, h⟩

/-- Computations with the same image fail for the same reason, or their results have the same image. -/
theorem cases_of_map_eq {f : α → β} {x x' : Except ε α} (h : x'.map f = x.map f) :
    (∃ e, x = .error e ∧ x' = .error e) ∨ ∃ y y', x = .ok y ∧ x' = .ok y' ∧ f y' = f y := by
  cases x with
  | error e =>
    cases x' with
    | error e' => exact .inl ⟨e, rfl, congrArg Except.error (Except.error.inj h)⟩
    | ok y' => cases h
  | ok y =>
    cases x' with
    | error e' => cases h
    | ok y' => exact .inr ⟨y, y', rfl, rfl, Except.ok.inj h⟩

/-- What is read item by item comes from the items. -/
theorem exists_of_mem_mapM {f : α → Except ε β} {xs : List α} {ys : List β}
    (h : xs.mapM f = .ok ys) {y : β} (hy : y ∈ ys) : ∃ x ∈ xs, f x = .ok y := by
  induction xs generalizing ys with
  | nil =>
    rw [List.mapM_nil] at h
    rw [← Except.ok.inj h] at hy
    exact absurd hy List.not_mem_nil
  | cons x xs ih =>
    rw [List.mapM_cons] at h
    obtain ⟨z, hz, h⟩ := exists_of_bind_eq_ok h
    obtain ⟨zs, hzs, h⟩ := exists_of_bind_eq_ok h
    rw [← Except.ok.inj h, List.mem_cons] at hy
    rcases hy with rfl | hy
    · exact ⟨x, List.mem_cons_self, hz⟩
    · obtain ⟨w, hw, hfw⟩ := ih hzs hy
      exact ⟨w, List.mem_cons_of_mem _ hw, hfw⟩

/-- What is read item by item has something for each item. -/
theorem exists_mem_of_mapM {f : α → Except ε β} {xs : List α} {ys : List β}
    (h : xs.mapM f = .ok ys) {x : α} (hx : x ∈ xs) : ∃ y ∈ ys, f x = .ok y := by
  induction xs generalizing ys with
  | nil => exact absurd hx List.not_mem_nil
  | cons x' xs ih =>
    rw [List.mapM_cons] at h
    obtain ⟨z, hz, h⟩ := exists_of_bind_eq_ok h
    obtain ⟨zs, hzs, h⟩ := exists_of_bind_eq_ok h
    rw [← Except.ok.inj h]
    rcases List.mem_cons.mp hx with rfl | hx
    · exact ⟨z, List.mem_cons_self, hz⟩
    · obtain ⟨y, hy, hfy⟩ := ih hzs hx
      exact ⟨y, List.mem_cons_of_mem z hy, hfy⟩

/-- Items are read when each of them is. -/
theorem exists_mapM_iff {f : α → Except ε β} {xs : List α} :
    (∃ ys, xs.mapM f = .ok ys) ↔ ∀ x ∈ xs, ∃ y, f x = .ok y := by
  induction xs with
  | nil => simp [pure, Except.pure]
  | cons x xs ih =>
    rw [List.forall_mem_cons, ← ih, List.mapM_cons]
    constructor
    · rintro ⟨ys, h⟩
      obtain ⟨z, hz, h⟩ := exists_of_bind_eq_ok h
      obtain ⟨zs, hzs, -⟩ := exists_of_bind_eq_ok h
      exact ⟨⟨z, hz⟩, zs, hzs⟩
    · rintro ⟨⟨z, hz⟩, zs, hzs⟩
      exact ⟨z :: zs, by rw [hz, hzs]; rfl⟩

/-- Items that can be read are read one after the other. -/
theorem mapM_eq_some {f : α → Option β} {g : α → β} {xs : List α} (h : ∀ x ∈ xs, f x = some (g x)) :
    xs.mapM f = some (xs.map g) := by
  induction xs with
  | nil => rfl
  | cons x xs ih =>
    obtain ⟨hx, hxs⟩ := List.forall_mem_cons.mp h
    rw [List.mapM_cons, hx, ih hxs]
    rfl

/-- They are not when one of them cannot be read. -/
theorem mapM_eq_none {f : α → Option β} {xs : List α} {x : α} (hx : x ∈ xs) (h : f x = none) :
    xs.mapM f = none := by
  induction xs with
  | nil => exact absurd hx List.not_mem_nil
  | cons x' xs ih =>
    rw [List.mapM_cons]
    rcases List.mem_cons.mp hx with rfl | hx
    · rw [h]
      rfl
    · rw [ih hx]
      cases f x' <;> rfl

/-! ### Items that are kept -/

variable {p : α → Except ε Bool} {xs ys acc : List α}

theorem filterAuxM_eq_ok {keep : α → Bool} (h : ∀ x ∈ xs, p x = .ok (keep x)) :
    xs.filterAuxM p acc = .ok ((xs.filter keep).reverse ++ acc) := by
  induction xs generalizing acc with
  | nil => rfl
  | cons x xs ih =>
    obtain ⟨hx, hxs⟩ := List.forall_mem_cons.mp h
    rw [List.filterAuxM, hx]
    refine (ih hxs).trans ?_
    cases hkeep : keep x <;> simp [hkeep]

theorem forall_ok_of_filterAuxM (h : xs.filterAuxM p acc = .ok ys) : ∀ x ∈ xs, ∃ b, p x = .ok b := by
  induction xs generalizing acc with
  | nil => exact List.forall_mem_nil _
  | cons x xs ih =>
    rw [List.filterAuxM] at h
    obtain ⟨b, hb, h⟩ := exists_of_bind_eq_ok h
    exact List.forall_mem_cons.mpr ⟨⟨b, hb⟩, ih h⟩

/-- When each item is judged, those are kept that are judged so. -/
theorem filterM_eq_ok {keep : α → Bool} (h : ∀ x ∈ xs, p x = .ok (keep x)) :
    xs.filterM p = .ok (xs.filter keep) := by
  rw [List.filterM, filterAuxM_eq_ok h, List.append_nil]
  exact congrArg Except.ok (List.reverse_reverse _)

/-- Nothing is kept before each item is judged. -/
theorem forall_ok_of_filterM (h : xs.filterM p = .ok ys) : ∀ x ∈ xs, ∃ b, p x = .ok b := by
  rw [List.filterM] at h
  obtain ⟨zs, hzs, -⟩ := exists_of_bind_eq_ok h
  exact forall_ok_of_filterAuxM hzs

/-- What is kept of the same items in another order is the same in another order. -/
theorem exists_filterM_perm {xs' : List α} (hperm : xs.Perm xs') (h : xs.filterM p = .ok ys) :
    ∃ ys', xs'.filterM p = .ok ys' ∧ ys.Perm ys' := by
  have hjudged := forall_ok_of_filterM h
  have hkeep : ∀ x ∈ xs, p x = .ok ((p x).toOption.getD false) := by
    intro x hx
    obtain ⟨b, hb⟩ := hjudged x hx
    rw [hb]
    rfl
  obtain rfl := Except.ok.inj (h.symm.trans (filterM_eq_ok hkeep))
  exact ⟨_, filterM_eq_ok fun x hx => hkeep x (hperm.mem_iff.mpr hx), hperm.filter _⟩

end Vitae
