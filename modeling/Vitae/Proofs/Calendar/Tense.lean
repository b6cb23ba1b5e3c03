import Mathlib.Algebra.Order.Ring.Int
import Vitae.Calendar.Tense
import Vitae.Proofs.Except
import Vitae.Proofs.Text.Lines

/-!
# What date fields name

A text names a day when it is a month and a year of the calendar with one slash between them, or when
it begins with a date in numeric form (`TextNames`). Two numbers with one slash between them are
oversized when one of them does not fit into 32 bits (`IsOversized`). These are the only two cases in
which a text is not simply past: a date field lies ahead exactly when it names a day that does
(`isFuture_eq_true_iff`), and it cannot be judged exactly when it is oversized (`isFuture_eq_error_iff`).
-/

namespace Vitae.Calendar

open Text

/-! ### Texts -/

/-- A text is two numbers with one slash between them, a month and a year, with blanks around it. -/
def ReadsAsMonth (s : String) (month year : Int) : Prop :=
  ∃ m y, trimChars s.toList = m ++ '/' :: y ∧ '/' ∉ m ∧ '/' ∉ y ∧
    Decimal.integer? m = some month ∧ Decimal.integer? y = some year

/-- The days that a text names. -/
inductive TextNames (s : String) : Date → Prop where
  /-- The first day of a month of the calendar. -/
  | month {month year : Nat} (h : IsDate year month 1) :
      ReadsAsMonth s month year → TextNames s ⟨year, month, 1, h⟩
  /-- A day in numeric form, which is read from the first ten characters. -/
  | numeric {d : Date} : '/' ∉ trimChars s.toList → date? ((trimChars s.toList).take 10) = some d →
      TextNames s d

/-- A number that fits into 32 bits. -/
def InField (n : Int) : Prop := -2 ^ 31 ≤ n ∧ n < 2 ^ 31

/-- A text that is a month and a year of which one does not fit into 32 bits. -/
def IsOversized (s : String) : Prop :=
  ∃ month year, ReadsAsMonth s month year ∧ ¬ (InField month ∧ InField year)

theorem fitsField_and_iff {month year : Int} :
    (fitsField year && fitsField month) = true ↔ InField month ∧ InField year := by
  simp only [fitsField, InField, Bool.and_eq_true, decide_eq_true_eq]
  omega

theorem ofMonth_eq_tooLarge_iff {month year : Int} :
    Reading.ofMonth year month = .tooLarge ↔ ¬ (InField month ∧ InField year) := by
  rw [← fitsField_and_iff, Reading.ofMonth]
  split
  · rename_i hfits
    refine iff_of_false ?_ (not_not_intro hfits)
    split
    · cases Date.mk? year.toNat month.toNat 1 <;> simp
    · simp
  · rename_i hfits
    exact iff_of_true rfl hfits

theorem ofMonth_eq_day_iff {month year : Int} {d : Date} :
    Reading.ofMonth year month = .day d ↔ (d.month : Int) = month ∧ (d.year : Int) = year ∧ d.day = 1 := by
  constructor
  · intro h
    rw [Reading.ofMonth] at h
    split at h
    · split at h
      · rename_i hpos
        rw [Date.mk?] at h
        split at h
        · cases h
          exact ⟨Int.toNat_of_nonneg (by omega), Int.toNat_of_nonneg (by omega), rfl⟩
        · cases h
      · cases h
    · cases h
  · rintro ⟨hmonth, hyear, hday⟩
    have hdate := d.isDate
    have hrange := hdate
    rw [IsDate] at hrange
    have hfits : (fitsField year && fitsField month) = true := by
      rw [fitsField_and_iff, InField, InField]
      omega
    have hpos : 0 < year ∧ 0 < month := by omega
    have hnumbers : year.toNat = d.year ∧ month.toNat = d.month := by omega
    rw [Reading.ofMonth, if_pos hfits, if_pos hpos, hnumbers.1, hnumbers.2, ← hday, Date.mk?, dif_pos hdate]
    rfl

/-! ### What a text is read as -/

variable {s : String}

theorem ReadsAsMonth.slash_mem {month year : Int} (h : ReadsAsMonth s month year) : '/' ∈ trimChars s.toList := by
  obtain ⟨m, y, hcs, -⟩ := h
  rw [hcs]
  exact List.mem_append_right _ List.mem_cons_self

theorem ofText_of_not_mem (h : '/' ∉ trimChars s.toList) :
    Reading.ofText s = (date? ((trimChars s.toList).take 10)).elim .noDay .day := by
  rw [Reading.ofText, Reading.ofTrimmed, splitChars_of_not_mem h]

theorem ofText_of_readsAsMonth {month year : Int} (h : ReadsAsMonth s month year) :
    Reading.ofText s = .ofMonth year month := by
  obtain ⟨m, y, hcs, hm, hy, hmonth, hyear⟩ := h
  rw [Reading.ofText, Reading.ofTrimmed, splitChars_eq_pair_iff.mpr ⟨hcs, hm, hy⟩]
  simp only [hmonth, hyear]

/-- Other texts with a slash name no day, for whatever cause. -/
theorem ofText_of_not_readsAsMonth (hslash : '/' ∈ trimChars s.toList)
    (h : ∀ month year, ¬ ReadsAsMonth s month year) : Reading.ofText s = .noDay := by
  rw [Reading.ofText, Reading.ofTrimmed]
  split
  · rename_i piece hcs
    exact absurd hslash (splitChars_eq_singleton_iff.mp hcs).2
  · rename_i m y hcs
    obtain ⟨hcs, hm, hy⟩ := splitChars_eq_pair_iff.mp hcs
    split
    · rename_i year month hyear hmonth
      exact absurd ⟨m, y, hcs, hm, hy, hmonth, hyear⟩ (h month year)
    · rfl
  · rfl

theorem ofText_eq_tooLarge_iff : Reading.ofText s = .tooLarge ↔ IsOversized s := by
  constructor
  · intro h
    by_cases hslash : '/' ∈ trimChars s.toList
    · by_cases hmonth : ∃ month year, ReadsAsMonth s month year
      · obtain ⟨month, year, hmonth⟩ := hmonth
        rw [ofText_of_readsAsMonth hmonth, ofMonth_eq_tooLarge_iff] at h
        exact ⟨month, year, hmonth, h⟩
      · rw [ofText_of_not_readsAsMonth hslash fun month year hm => hmonth ⟨month, year, hm⟩] at h
        cases h
    · rw [ofText_of_not_mem hslash] at h
      cases hdate : date? ((trimChars s.toList).take 10) <;> rw [hdate] at h <;> cases h
  · rintro ⟨month, year, hmonth, hout⟩
    rw [ofText_of_readsAsMonth hmonth, ofMonth_eq_tooLarge_iff]
    exact hout

theorem ofText_eq_day_iff {d : Date} : Reading.ofText s = .day d ↔ TextNames s d := by
  constructor
  · intro h
    by_cases hslash : '/' ∈ trimChars s.toList
    · by_cases hmonth : ∃ month year, ReadsAsMonth s month year
      · obtain ⟨month, year, hmonth⟩ := hmonth
        rw [ofText_of_readsAsMonth hmonth, ofMonth_eq_day_iff] at h
        obtain ⟨rfl, rfl, hday⟩ := h
        obtain ⟨year, month, day, hdate⟩ := d
        obtain rfl : day = 1 := hday
        exact .month hdate hmonth
      · rw [ofText_of_not_readsAsMonth hslash fun month year hm => hmonth ⟨month, year, hm⟩] at h
        cases h
    · rw [ofText_of_not_mem hslash] at h
      cases hdate : date? ((trimChars s.toList).take 10) with
      | none => rw [hdate] at h; cases h
      | some e =>
        rw [hdate] at h
        cases h
        exact .numeric hslash hdate
  · intro h
    cases h with
    | month hdate hmonth =>
      rw [ofText_of_readsAsMonth hmonth, ofMonth_eq_day_iff]
      exact ⟨rfl, rfl, rfl⟩
    | numeric hslash hdate => rw [ofText_of_not_mem hslash, hdate]; rfl

/-! ### Date fields -/

/-- The days that the content of a date field names. -/
def DateValue.Names : DateValue → Date → Prop
  | .text s, d => TextNames s d
  | .date e, d => e = d
  | .moment t, d => t.date = d

/-- The content of a date field is an oversized text. -/
def DateValue.IsOversized : DateValue → Prop
  | .text s => Calendar.IsOversized s
  | _ => False

theorem reading_eq_day_iff {v : DateValue} {d : Date} : v.reading = .day d ↔ v.Names d := by
  cases v with
  | text s => exact ofText_eq_day_iff
  | date e => exact Reading.day.injEq e d ▸ Iff.rfl
  | moment t => exact Reading.day.injEq t.date d ▸ Iff.rfl

theorem reading_eq_tooLarge_iff {v : DateValue} : v.reading = .tooLarge ↔ v.IsOversized := by
  cases v with
  | text s => exact ofText_eq_tooLarge_iff
  | date e => exact iff_of_false (by simp [DateValue.reading]) id
  | moment t => exact iff_of_false (by simp [DateValue.reading]) id

/-- A date field that holds an oversized text. -/
def HoldsOversized (value : Option DateValue) : Prop := ∃ v, value = some v ∧ v.IsOversized

/-- A date field that names a day after `today`. -/
def NamesAfter (value : Option DateValue) (today : Date) : Prop :=
  ∃ v d, value = some v ∧ v.Names d ∧ d.isAfter today

variable {value : Option DateValue} {today : Date}

theorem isFuture_eq_error_iff : isFuture value today = .error .monthOfYear ↔ HoldsOversized value := by
  cases value with
  | none => simp [isFuture, HoldsOversized]
  | some v =>
    rw [isFuture, HoldsOversized, Option.map_some]
    simp only [Option.some.injEq, exists_eq_left', ← reading_eq_tooLarge_iff]
    cases v.reading <;> simp

theorem isFuture_eq_true_iff : isFuture value today = .ok true ↔ NamesAfter value today := by
  cases value with
  | none => simp [isFuture, NamesAfter]
  | some v =>
    rw [isFuture, NamesAfter, Option.map_some]
    simp only [Option.some.injEq, exists_and_left, exists_eq_left', ← reading_eq_day_iff]
    cases v.reading <;> simp

theorem exists_isFuture_iff : (∃ later, isFuture value today = .ok later) ↔ ¬ HoldsOversized value := by
  have hover : isFuture value today = .error .monthOfYear ↔ HoldsOversized value := isFuture_eq_error_iff
  rw [← hover]
  cases isFuture value today with
  | ok later => simp
  | error e => cases e; simp

theorem isFuture_eq_false_iff :
    isFuture value today = .ok false ↔ ¬ HoldsOversized value ∧ ¬ NamesAfter value today := by
  have hjudged : (∃ later, isFuture value today = .ok later) ↔ ¬ HoldsOversized value := exists_isFuture_iff
  rw [← hjudged, ← isFuture_eq_true_iff]
  cases isFuture value today with
  | ok later => cases later <;> simp
  | error e => simp

/-! ### Courses of study -/

/-- An oversized text shows something. -/
theorem display?_ne_empty_of_holdsOversized (h : HoldsOversized value) : display? value ≠ "" := by
  obtain ⟨v, rfl, hv⟩ := h
  cases v with
  | text s =>
    obtain ⟨month, year, hmonth, -⟩ := hv
    intro hempty
    have hnil : trimChars s.toList = [] := String.ofList_eq_empty_iff.mp hempty
    have hslash := hmonth.slash_mem
    rw [hnil] at hslash
    exact absurd hslash List.not_mem_nil
  | date d => exact hv.elim
  | moment t => exact hv.elim

theorem exists_study_iff {start graduation : Option DateValue} :
    (∃ shown, study start graduation today = .ok shown) ↔ ¬ HoldsOversized graduation := by
  constructor
  · rintro ⟨shown, h⟩ hover
    rw [study, if_pos (display?_ne_empty_of_holdsOversized hover), isFuture_eq_error_iff.mpr hover] at h
    cases h
  · intro hnot
    rw [study]
    split
    · obtain ⟨later, hlater⟩ := exists_isFuture_iff.mpr hnot
      exact ⟨_, by rw [hlater]; rfl⟩
    · split
      · exact ⟨_, rfl⟩
      · exact ⟨_, rfl⟩

end Vitae.Calendar
