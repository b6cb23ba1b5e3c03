import Mathlib.Data.Nat.Digits.Defs
import Vitae.Proofs.Calendar.Tense
import Vitae.Proofs.Decimal.Digits
import Vitae.Proofs.Text.Blank

/-!
# Written dates read back

Numbers are written with zeros in front, and as many digits are read as were written
(`takeNumber?_padded`). So a date in numeric form is read as itself (`date?_text`), and a moment in
numeric form names its date, since it begins with it and the rest is not looked at
(`textNames_momentText`). A date that is shown as month and year names the first day of that month
(`textNames_monthText`).
-/

namespace Vitae.Calendar

open Text

/-! ### Numbers with zeros in front -/

section

variable {width n : Nat}

theorem toList_padded (width n : Nat) : (padded width n).toList =
    List.replicate (width - (Nat.toDigits 10 n).length) '0' ++ Nat.toDigits 10 n := by
  rw [padded, String.toList_ofList]

theorem isDigit_of_mem_padded {c : Char} (h : c ∈ (padded width n).toList) : c.isDigit := by
  rw [toList_padded] at h
  rcases List.mem_append.mp h with h | h
  · rw [(List.mem_replicate.mp h).2]
    decide
  · exact Nat.isDigit_of_mem_toDigits (by decide) (by decide) h

theorem length_padded (hwidth : 0 < width) (h : n < 10 ^ width) : (padded width n).toList.length = width := by
  have hlength := (Nat.length_toDigits_le_iff (by decide) hwidth).mpr h
  rw [toList_padded, List.length_append, List.length_replicate, Nat.sub_add_cancel hlength]

theorem padded_ne_nil (hwidth : 0 < width) (h : n < 10 ^ width) : (padded width n).toList ≠ [] :=
  List.ne_nil_of_length_pos (by rwa [length_padded hwidth h])

theorem ofDigitChars_padded (width n : Nat) : Nat.ofDigitChars 10 (padded width n).toList 0 = n := by
  rw [toList_padded, Nat.ofDigitChars_append, Nat.ofDigitChars_replicate_zero, Nat.mul_zero,
    Nat.ofDigitChars_ten_toDigits]

/-- A number that is written with a fixed number of digits is read with that number of digits. -/
theorem takeNumber?_padded (hwidth : 0 < width) (h : n < 10 ^ width) (rest : List Char) :
    takeNumber? width ((padded width n).toList ++ rest) = some (n, rest) := by
  have hlength := length_padded hwidth h
  have hvalue : (padded width n).toList.foldl (fun k c => 10 * k + (c.toNat - 48)) 0 = n :=
    Nat.ofDigitChars_eq_foldl.symm.trans (ofDigitChars_padded width n)
  have hdigits : (padded width n).toList.all Char.isDigit = true :=
    List.all_eq_true.mpr fun c hc => isDigit_of_mem_padded hc
  rw [takeNumber?, List.take_left' hlength, List.drop_left' hlength, hvalue]
  simp [hlength, hdigits]

theorem integer?_padded (hwidth : 0 < width) (h : n < 10 ^ width) (hlimit : width ≤ Decimal.digitLimit) :
    Decimal.integer? (padded width n).toList = some (n : Int) := by
  rw [Decimal.integer?_of_isDigit (padded_ne_nil hwidth h) (fun c hc => isDigit_of_mem_padded hc)
    (by rwa [length_padded hwidth h]), ofDigitChars_padded]

theorem integer?_toDigits (h : (Nat.toDigits 10 n).length ≤ Decimal.digitLimit) :
    Decimal.integer? (Nat.toDigits 10 n) = some (n : Int) := by
  rw [Decimal.integer?_of_isDigit Nat.toDigits_ne_nil
    (fun c hc => Nat.isDigit_of_mem_toDigits (by decide) (by decide) hc) h, Nat.ofDigitChars_ten_toDigits]

end

/-! ### The numeric form of a date -/

variable (d : Date)

theorem daysInMonth_le (year month : Nat) : daysInMonth year month ≤ 31 := by
  rw [daysInMonth]
  split
  · split <;> decide
  · split
    · decide
    · split <;> decide

theorem Date.bounds : d.year < 10 ^ 4 ∧ d.month < 10 ^ 2 ∧ d.day < 10 ^ 2 := by
  obtain ⟨hyear, hmonth, -, hday⟩ := d.isDate
  have hdays := daysInMonth_le d.year d.month
  omega

theorem toList_dateText : d.text.toList =
    (padded 4 d.year).toList ++ '-' :: ((padded 2 d.month).toList ++ '-' :: (padded 2 d.day).toList) := by
  simp [Date.text]

theorem length_dateText : d.text.toList.length = 10 := by
  obtain ⟨hyear, hmonth, hday⟩ := d.bounds
  rw [toList_dateText, List.length_append, List.length_cons, List.length_append, List.length_cons,
    length_padded (by decide) hyear, length_padded (by decide) hmonth, length_padded (by decide) hday]

/-- The marks between the numbers of a date or a moment in numeric form. -/
def numericMarks : List Char := "-:.+T".toList

/-- A character of a date or a moment in numeric form. -/
def isNumeric (c : Char) : Bool := c.isDigit || numericMarks.contains c

theorem isDigit_or_mem_of_isNumeric {c : Char} (h : isNumeric c = true) : c.isDigit ∨ c ∈ numericMarks := by
  simpa [isNumeric] using h

theorem all_isNumeric_padded (width n : Nat) : (padded width n).toList.all isNumeric = true :=
  List.all_eq_true.mpr fun c hc => by rw [isNumeric, isDigit_of_mem_padded hc, Bool.true_or]

theorem all_isNumeric_dateText : d.text.toList.all isNumeric = true := by
  simp only [toList_dateText, List.all_append, List.all_cons, all_isNumeric_padded]
  decide

theorem all_isNumeric_secondsText (second micro : Nat) :
    (Moment.secondsText second micro).toList.all isNumeric = true := by
  rw [Moment.secondsText, String.toList_append, List.all_append, all_isNumeric_padded]
  split
  · rfl
  · rw [String.toList_append, List.all_append, all_isNumeric_padded]
    decide

theorem all_isNumeric_offsetText (offset : Int) : (Moment.offsetText offset).toList.all isNumeric = true := by
  have hsign : (if offset < 0 then "-" else "+").toList.all isNumeric = true := by split <;> decide
  have hcolon : ":".toList.all isNumeric = true := by decide
  simp only [Moment.offsetText, String.toList_append, List.all_append, all_isNumeric_padded, hsign, hcolon]
  split
  · rfl
  · rw [String.toList_append, List.all_append, all_isNumeric_secondsText, hcolon]
    rfl

theorem utf8Size_of_isNumeric {c : Char} (h : isNumeric c = true) : c.utf8Size = 1 := by
  rw [Char.utf8Size_eq_one_iff, UInt32.le_iff_toNat_le]
  rcases isDigit_or_mem_of_isNumeric h with hdigit | hmark
  · have hrange : c.toNat ≤ 57 := (toNat_of_isDigit hdigit).2
    exact Nat.le_trans hrange (by decide)
  · have hmarks : numericMarks.all (fun m => m.val.toNat ≤ 127) = true := by decide
    exact of_decide_eq_true (List.all_eq_true.mp hmarks c hmark)

theorem byteCount_eq_length {cs : List Char} (h : cs.all isNumeric = true) : byteCount cs = cs.length := by
  induction cs with
  | nil => rfl
  | cons c cs ih =>
    rw [List.all_cons, Bool.and_eq_true] at h
    have hcons : String.ofList (c :: cs) = String.singleton c ++ String.ofList cs := by
      rw [← String.toList_inj]
      simp
    have ih := ih h.2
    rw [byteCount] at ih ⊢
    rw [hcons, String.utf8ByteSize_append, String.utf8ByteSize_singleton, utf8Size_of_isNumeric h.1, ih,
      List.length_cons, Nat.add_comm]

/-- A text of ten bytes that begins with a year and a hyphen, and goes on with no week. -/
theorem date?_of_takeNumber? {cs rest : List Char} {year : Nat} (hsize : byteCount cs = 10)
    (hyear : takeNumber? 4 cs = some (year, '-' :: rest)) (hweek : skip? 'W' rest = none) :
    date? cs = monthDate? year true rest := by
  have hhyphen : skip? '-' ('-' :: rest) = some rest := rfl
  simp [date?, hsize, hyear, hhyphen, hweek]

/-- A date in numeric form is read as itself. -/
theorem date?_text : date? d.text.toList = some d := by
  obtain ⟨hyear, hmonth, hday⟩ := d.bounds
  have hsize : byteCount d.text.toList = 10 :=
    (byteCount_eq_length (all_isNumeric_dateText d)).trans (length_dateText d)
  have hweek : ∀ rest, skip? 'W' ((padded 2 d.month).toList ++ rest) = none := by
    intro rest
    obtain ⟨c, cs, hdigits⟩ := List.exists_cons_of_ne_nil (padded_ne_nil (by decide) hmonth)
    have hmem : c ∈ (padded 2 d.month).toList := by simp [hdigits]
    have hc : c.isDigit := isDigit_of_mem_padded hmem
    have hne : c ≠ 'W' := by rintro rfl; exact absurd hc (by decide)
    rw [hdigits, List.cons_append, skip?, if_neg hne]
  have hdate : monthDate? d.year true ((padded 2 d.month).toList ++ '-' :: (padded 2 d.day).toList) =
      Date.mk? d.year d.month d.day := by
    have hrest := takeNumber?_padded (by decide) hday []
    rw [List.append_nil] at hrest
    simp [monthDate?, takeNumber?_padded (by decide) hmonth, skip?, hrest]
  have hnumber := takeNumber?_padded (by decide) hyear
    ('-' :: ((padded 2 d.month).toList ++ '-' :: (padded 2 d.day).toList))
  rw [← toList_dateText] at hnumber
  rw [date?_of_takeNumber? hsize hnumber (hweek _), hdate, Date.mk?, dif_pos d.isDate]

/-! ### What written dates name -/

/-- A text that begins with the numeric form of a date, and holds no other characters than such forms do,
names the date. -/
theorem textNames_of_isNumeric {s : String} {rest : List Char} (h : s.toList = d.text.toList ++ rest)
    (hnumeric : s.toList.all isNumeric = true) : TextNames s d := by
  have hchars : ∀ c ∈ s.toList, isBlank c = false ∧ c ≠ '/' := by
    intro c hc
    rcases isDigit_or_mem_of_isNumeric (List.all_eq_true.mp hnumeric c hc) with hdigit | hmark
    · exact ⟨Decimal.not_isBlank_of_isDigit hdigit, by rintro rfl; exact absurd hdigit (by decide)⟩
    · have hmarks : numericMarks.all (fun m => !isBlank m && m != '/') = true := by decide
      simpa using List.all_eq_true.mp hmarks c hmark
  have htrim : trimChars s.toList = s.toList := trimChars_of_no_blank fun c hc => (hchars c hc).1
  have hslash : '/' ∉ trimChars s.toList := by
    rw [htrim]
    exact fun hmem => (hchars '/' hmem).2 rfl
  refine .numeric hslash ?_
  rw [htrim, h, List.take_left' (length_dateText d), date?_text]

theorem textNames_dateText : TextNames d.text d :=
  textNames_of_isNumeric d (List.append_nil _).symm (all_isNumeric_dateText d)

/-- A moment in numeric form names its date, whatever the time of day and the offset are. -/
theorem textNames_momentText (t : Moment) : TextNames (t.text "T") t.date := by
  have hmarks : "T".toList.all isNumeric = true ∧ ":".toList.all isNumeric = true := by decide
  have hoffset : ((t.offset.map Moment.offsetText).getD "").toList.all isNumeric = true := by
    cases t.offset with
    | none => rfl
    | some offset => exact all_isNumeric_offsetText offset
  obtain ⟨rest, hrest⟩ : ∃ rest : List Char, (t.text "T").toList = t.date.text.toList ++ rest := by
    simp only [Moment.text, String.toList_append, List.append_assoc]
    exact ⟨_, rfl⟩
  refine textNames_of_isNumeric t.date hrest ?_
  simp only [Moment.text, String.toList_append, List.all_append, all_isNumeric_dateText, all_isNumeric_padded,
    all_isNumeric_secondsText, hmarks.1, hmarks.2, hoffset, Bool.and_true]

/-- The first day of the month of a date. -/
def Date.monthStart (d : Date) : Date :=
  ⟨d.year, d.month, 1, d.isDate.1, d.isDate.2.1, Nat.le_refl 1, Nat.le_trans d.isDate.2.2.1 d.isDate.2.2.2⟩

theorem toList_monthText : d.monthText.toList = (padded 2 d.month).toList ++ '/' :: Nat.toDigits 10 d.year := by
  simp [Date.monthText]

/-- A date as month and year names the first day of the month. -/
theorem textNames_monthText : TextNames d.monthText d.monthStart := by
  obtain ⟨hyear, hmonth, -⟩ := d.bounds
  have hdigits : ∀ c ∈ Nat.toDigits 10 d.year, c.isDigit := fun c hc =>
    Nat.isDigit_of_mem_toDigits (by decide) (by decide) hc
  have hslash : ∀ cs : List Char, (∀ c ∈ cs, c.isDigit) → '/' ∉ cs := fun cs hcs hmem =>
    absurd (hcs '/' hmem) (by decide)
  have htrim : trimChars d.monthText.toList = d.monthText.toList := by
    refine trimChars_of_no_blank fun c hc => ?_
    rw [toList_monthText] at hc
    rcases List.mem_append.mp hc with hc | hc
    · exact Decimal.not_isBlank_of_isDigit (isDigit_of_mem_padded hc)
    · rcases List.mem_cons.mp hc with rfl | hc
      · decide
      · exact Decimal.not_isBlank_of_isDigit (hdigits c hc)
  have hreadMonth : Decimal.integer? (padded 2 d.month).toList = some (d.month : Int) :=
    integer?_padded (by decide) hmonth (by decide)
  have hreadYear : Decimal.integer? (Nat.toDigits 10 d.year) = some (d.year : Int) :=
    integer?_toDigits (Nat.le_trans ((Nat.length_toDigits_le_iff (by decide) (by decide)).mpr hyear) (by decide))
  exact .month d.monthStart.isDate ⟨_, _, htrim.trans (toList_monthText d),
    hslash _ fun c hc => isDigit_of_mem_padded hc, hslash _ hdigits, hreadMonth, hreadYear⟩

end Vitae.Calendar
