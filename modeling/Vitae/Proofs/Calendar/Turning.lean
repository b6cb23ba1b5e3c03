import Vitae.Datum
import Vitae.Proofs.Calendar.Shown
import Vitae.Proofs.Calendar.Written

/-!
# The tense turns once

A record file may hold a date as a date, as a moment of that day, or as the text of one of them; the
tense is the same for all of these (`StoredAs.isFuture_eq`). As the days advance, a date field that lies
ahead becomes past and stays so (`isFuture_of_not_isAfter`), for dates are ordered by year, month and day
(`Date.isAfter_iff`). So what is shown for a course of study changes at most once (`TurnsOnce`), from
the graduation to come to the past form.
-/

namespace Vitae.Calendar

open Text

/-! ### The order of dates -/

theorem Date.isAfter_iff {d e : Date} : d.isAfter e = true ↔
    e.year < d.year ∨ d.year = e.year ∧ (e.month < d.month ∨ d.month = e.month ∧ e.day < d.day) := by
  simp only [Date.isAfter, Date.compare, beq_iff_eq, Ordering.then_eq_gt, Nat.compare_eq_gt, Nat.compare_eq_eq]

/-- A date that lies after a day lies after every day that is not later. -/
theorem Date.isAfter_of_not_isAfter {d today later : Date} (h : today.isAfter later = false)
    (hd : d.isAfter later = true) : d.isAfter today = true := by
  rw [Bool.eq_false_iff, ne_eq, Date.isAfter_iff] at h
  rw [Date.isAfter_iff] at hd ⊢
  omega

/-! ### One date in all its forms -/

/-- What a record file may hold for a date. -/
inductive StoredAs (d : Date) : Datum → Prop where
  /-- The date. -/
  | date : StoredAs d (.date d)
  /-- The date in numeric form. -/
  | dateText : StoredAs d (.text d.text)
  /-- A moment of that day, with or without an offset. -/
  | moment {t : Moment} : t.date = d → StoredAs d (.moment t)
  /-- A moment of that day in numeric form. -/
  | momentText {t : Moment} : t.date = d → StoredAs d (.text (t.text "T"))

variable {d today later : Date}

theorem isFuture_of_names {v : DateValue} (h : v.Names d) : isFuture (some v) today = .ok (d.isAfter today) := by
  rw [isFuture, Option.map_some, reading_eq_day_iff.mpr h]

theorem StoredAs.isFuture_eq {v : Datum} (h : StoredAs d v) : isFuture v.toDate? today = .ok (d.isAfter today) := by
  cases h with
  | date => exact isFuture_of_names (v := .date d) rfl
  | dateText => exact isFuture_of_names (v := .text d.text) (textNames_dateText d)
  | moment hdate => exact isFuture_of_names (v := .moment _) hdate
  | @momentText t hdate =>
    subst hdate
    exact isFuture_of_names (v := .text (t.text "T")) (textNames_momentText t)

/-! ### The days advance -/

variable {start graduation : Option DateValue}

/-- A date field that lies ahead on a day lies ahead on every day that is not later. -/
theorem isFuture_of_not_isAfter {value : Option DateValue} (h : today.isAfter later = false)
    (hlater : isFuture value later = .ok true) : isFuture value today = .ok true := by
  obtain ⟨v, d, hv, hnames, hafter⟩ := isFuture_eq_true_iff.mp hlater
  exact isFuture_eq_true_iff.mpr ⟨v, d, hv, hnames, Date.isAfter_of_not_isAfter h hafter⟩

/-- What is shown on a day is one of two texts, and once it is the second it stays so. -/
structure TurnsOnce (shown : Date → Except FieldOverflow String) (before after : String) : Prop where
  /-- The texts can be told apart. -/
  differ : before ≠ after
  /-- One of them is shown on every day. -/
  shows : ∀ today, shown today = .ok before ∨ shown today = .ok after
  /-- What was shown after the turn is shown on all later days. -/
  stays : ∀ today later, today.isAfter later = false → shown today = .ok after → shown later = .ok after

/-- What is shown for a graduation to come. -/
def comingStudy (graduation : Option DateValue) : String := graduating ++ " " ++ display? graduation

theorem pastStudy_eq (hstart : display? start ≠ "") : pastStudy start graduation = range start graduation false := by
  rw [pastStudy, if_neg]
  simp [hstart]

theorem pastStudy_eq_graduated (hstart : display? start = "") (hgraduation : display? graduation ≠ "") :
    pastStudy start graduation = graduated ++ " " ++ display? graduation := by
  have hrange : range start graduation false = display? graduation := by
    rw [range, joinRange, hstart]
    simp
  rw [pastStudy, hrange, if_pos]
  simp [hstart, hgraduation]

theorem range_eq (hstart : display? start ≠ "") (hgraduation : display? graduation ≠ "") :
    range start graduation false = display? start ++ rangeMark ++ display? graduation := by
  rw [range, joinRange, if_pos]
  · rfl
  · simp [hstart, hgraduation]

/-- The past form is the graduation behind a text that does not announce it: a range has a hyphen where the
announcement has a letter, at the last place but one before the graduation. -/
theorem exists_pastStudy (start : Option DateValue) (hgraduation : display? graduation ≠ "") :
    ∃ front, pastStudy start graduation = front ++ display? graduation ∧ front ≠ graduating ++ " " := by
  by_cases hstart : display? start = ""
  · exact ⟨graduated ++ " ", pastStudy_eq_graduated hstart hgraduation, by decide⟩
  · refine ⟨display? start ++ rangeMark, (pastStudy_eq hstart).trans (range_eq hstart hgraduation), fun heq => ?_⟩
    have hback := congrArg (fun s : String => s.toList.reverse.drop 1) heq
    simp [rangeMark, graduating] at hback

theorem comingStudy_ne_pastStudy (start : Option DateValue) (hgraduation : display? graduation ≠ "") :
    comingStudy graduation ≠ pastStudy start graduation := by
  obtain ⟨front, hpast, hfront⟩ := exists_pastStudy start hgraduation
  rw [comingStudy, hpast]
  exact fun heq => hfront (String.append_left_inj _ |>.mp heq).symm

theorem study_eq (start : Option DateValue) {future : Bool} (hgraduation : display? graduation ≠ "")
    (h : isFuture graduation today = .ok future) : study start graduation today =
      .ok (if future then comingStudy graduation else pastStudy start graduation) := by
  rw [study, if_pos hgraduation, h]
  rfl

/-- A graduation that can be judged is shown as one to come until its day, and from then on as past. -/
theorem turnsOnce_study (hgraduation : display? graduation ≠ "") (h : ¬ HoldsOversized graduation) :
    TurnsOnce (study start graduation) (comingStudy graduation) (pastStudy start graduation) := by
  have hdiffer := comingStudy_ne_pastStudy start hgraduation
  refine ⟨hdiffer, fun today => ?_, fun today later hle hpast => ?_⟩
  · obtain ⟨future, hfuture⟩ : ∃ future, isFuture graduation today = .ok future := exists_isFuture_iff.mpr h
    rw [study_eq start hgraduation hfuture]
    cases future with
    | true => exact .inl rfl
    | false => exact .inr rfl
  · obtain ⟨future, hfuture⟩ : ∃ future, isFuture graduation later = .ok future := exists_isFuture_iff.mpr h
    cases future with
    | false => exact study_eq start hgraduation hfuture
    | true =>
      have hahead : isFuture graduation today = .ok true := isFuture_of_not_isAfter hle hfuture
      have hcoming : study start graduation today = .ok (comingStudy graduation) := study_eq start hgraduation hahead
      exact absurd (Except.ok.inj (hcoming.symm.trans hpast)) hdiffer

/-- Without a graduation nothing depends on the day. -/
theorem exists_study_eq (hgraduation : display? graduation = "") :
    ∃ shown, ∀ today, study start graduation today = .ok shown := by
  by_cases hstart : display? start = ""
  · exact ⟨"", fun today => by rw [study, if_neg (not_not_intro hgraduation), if_neg (not_not_intro hstart)]⟩
  · exact ⟨_, fun today => by rw [study, if_neg (not_not_intro hgraduation), if_pos hstart]⟩

/-- **The tense turns once.** Whatever form a date is held in, it lies ahead exactly on the days before
it; as month and year it stands for the first day of its month. For every start and every graduation that
can be judged, what is shown changes at most once as the days advance: from the graduation to come to a
past form, which shows the graduation, and is the range when there is a start. -/
theorem tense_turns_once :
    (∀ d today : Date,
      (∀ v : Datum, StoredAs d v → isFuture v.toDate? today = .ok (d.isAfter today)) ∧
      isFuture (some (.text (display? (some (.date d))))) today = .ok (d.monthStart.isAfter today)) ∧
    ∀ start graduation : Option DateValue, (∃ today future, isFuture graduation today = .ok future) →
      (display? graduation ≠ "" →
        TurnsOnce (study start graduation) (graduating ++ " " ++ display? graduation)
          (pastStudy start graduation) ∧
        (display? graduation).toList <:+: (pastStudy start graduation).toList ∧
        (display? start ≠ "" → pastStudy start graduation = range start graduation false) ∧
        (display? start = "" → pastStudy start graduation = graduated ++ " " ++ display? graduation)) ∧
      (display? graduation = "" → ∃ shown, ∀ today, study start graduation today = .ok shown) := by
  refine ⟨fun d today => ⟨fun v hv => hv.isFuture_eq, isFuture_of_names (v := .text _) (textNames_monthText d)⟩,
    fun start graduation hjudged => ⟨fun hgraduation => ⟨?_, ?_, pastStudy_eq, fun hstart => ?_⟩, exists_study_eq⟩⟩
  · obtain ⟨today, hfuture⟩ := hjudged
    exact turnsOnce_study hgraduation (exists_isFuture_iff.mp hfuture)
  · obtain ⟨front, hpast, -⟩ := exists_pastStudy start hgraduation
    rw [hpast, String.toList_append]
    exact (List.suffix_append _ _).isInfix
  · exact pastStudy_eq_graduated hstart hgraduation

/-- The last day of May of 2026. -/
def lastOfMay : Date := ⟨2026, 5, 31, by decide⟩

theorem tense_turns_once_lastOfMay :
    isFuture (Datum.text "2026-05-31T23:59:00-08:00").toDate? ⟨2026, 5, 30, by decide⟩ = .ok true ∧
    TurnsOnce (study (some (.text "09/2022")) (some (.date lastOfMay))) "Graduating 05/2026"
      "09/2022 -- 05/2026" := by
  obtain ⟨hforms, hstudies⟩ := tense_turns_once
  obtain ⟨hstored, -⟩ := hforms lastOfMay ⟨2026, 5, 30, by decide⟩
  refine ⟨?_, ?_⟩
  · have hform := hstored _ (.momentText (t := ⟨lastOfMay, 23, 59, 0, 0, some (-28800000000)⟩) rfl)
    exact hform
  · obtain ⟨hshown, -⟩ := hstudies (some (.text "09/2022")) (some (.date lastOfMay)) ⟨lastOfMay, false, rfl⟩
    exact (hshown (by decide)).1

end Vitae.Calendar
