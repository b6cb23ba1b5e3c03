import Vitae.Calendar.Tense
import Vitae.Proofs.Except
import Vitae.Proofs.Text.Shown

/-!
# When dates show something

A date field shows something when it holds a date, or a text that does (`DateShows`). What
is worded from date fields shows something when one of them does: a range
(`shown_range_iff`), which also does when it goes on, and the dates of a course of study
(`shown_study_iff`).
-/

namespace Vitae.Calendar

open Text

/-- A date field shows something: it holds a date, or a text that does. -/
def DateShows : Option DateValue → Prop
  | none => False
  | some (.text s) => Shown s
  | some _ => True

theorem shown_monthText (d : Date) : Shown d.monthText :=
  shown_of_mem (c := '/') (by simp [Date.monthText]) (by decide)

theorem shown_text (d : Date) : Shown d.text := shown_of_mem (c := '-') (by simp [Date.text]) (by decide)

theorem shown_display?_iff {value : Option DateValue} : Shown (display? value) ↔ DateShows value := by
  match value with
  | none => simp [display?, DateShows, not_shown_empty]
  | some (.text s) => exact shown_trim
  | some (.date d) => exact iff_of_true (shown_monthText d) trivial
  | some (.moment t) => exact iff_of_true (shown_monthText t.date) trivial

theorem display?_ne_empty_iff {value : Option DateValue} : display? value ≠ "" ↔ DateShows value := by
  rw [← shown_display?_iff]
  refine ⟨fun hne => ?_, Shown.ne_empty⟩
  match value with
  | none => exact absurd rfl hne
  | some (.text s) => exact shown_trim.mpr (trim_ne_empty_iff.mp hne)
  | some (.date d) => exact shown_monthText d
  | some (.moment t) => exact shown_monthText t.date

instance (value : Option DateValue) : Decidable (DateShows value) :=
  decidable_of_iff (display? value ≠ "") display?_ne_empty_iff

/-- A range of which the ends show something, unless they are empty. -/
theorem shown_joinRange_iff {start stop : String} (hstart : start ≠ "" → Shown start)
    (hstop : stop ≠ "" → Shown stop) : Shown (joinRange start stop) ↔ Shown start ∨ Shown stop := by
  rw [joinRange]
  by_cases hs : start = ""
  · subst hs
    simp [not_shown_empty]
  · by_cases ht : stop = ""
    · subst ht
      simp [hs, not_shown_empty]
    · simp [hs, ht, shown_append, hstart hs]

/-- A range shows something when it goes on or one of its ends shows something. -/
theorem shown_range_iff {start stop : Option DateValue} {isCurrent : Bool} :
    Shown (range start stop isCurrent) ↔ DateShows start ∨ DateShows stop ∨ isCurrent = true := by
  have hdisplay : ∀ value, display? value ≠ "" → Shown (display? value) := fun value hne =>
    shown_display?_iff.mpr (display?_ne_empty_iff.mp hne)
  have hpresent : Shown present := shown_of_mem (c := 'P') (by decide) (by decide)
  rw [range, shown_joinRange_iff (hdisplay start), shown_display?_iff]
  · cases isCurrent with
    | true => simp [hpresent]
    | false => simp [shown_display?_iff]
  · cases isCurrent with
    | true => exact fun _ => hpresent
    | false => exact hdisplay stop

/-- A course of study whose dates can be told shows a date when it has one. -/
theorem shown_study_iff {start graduation : Option DateValue} {today : Date} {dates : String}
    (h : study start graduation today = .ok dates) : Shown dates ↔ DateShows start ∨ DateShows graduation := by
  rw [study] at h
  split at h
  · rename_i hgraduation
    have hdate := display?_ne_empty_iff.mp hgraduation
    refine iff_of_true ?_ (.inr hdate)
    have hrange : Shown (range start graduation false) := shown_range_iff.mpr (.inr (.inl hdate))
    obtain ⟨later, -, h⟩ := exists_of_bind_eq_ok h
    rw [← Except.ok.inj h]
    split
    · exact shown_append.mpr (.inr (shown_display?_iff.mpr hdate))
    · rw [pastStudy]
      split
      · exact shown_append.mpr (.inr hrange)
      · exact hrange
  · rename_i hgraduation
    have hnone : ¬ DateShows graduation := fun hdate => hgraduation (display?_ne_empty_iff.mpr hdate)
    split at h
    · rename_i hstart
      have hdate := display?_ne_empty_iff.mp hstart
      rw [← Except.ok.inj h]
      refine iff_of_true ?_ (.inl hdate)
      exact shown_append.mpr (.inl (shown_append.mpr (.inl (shown_display?_iff.mpr hdate))))
    · rename_i hstart
      rw [← Except.ok.inj h]
      refine iff_of_false not_shown_empty ?_
      rintro (hdate | hdate)
      · exact hstart (display?_ne_empty_iff.mpr hdate)
      · exact hnone hdate

end Vitae.Calendar
