import Vitae.Proofs.Calendar.Tense
import Vitae.Proofs.Document.Rendering

/-!
# Which dates stop a document

Malformed dates count as past and stop nothing, with one exception: a text of a month and a year of
which one does not fit into 32 bits cannot be judged. So the dates of a course of study are shown, the
courses of study are drawn, and a body of the standard layout is there, exactly when no date that has to
be judged is such a text (`dates_judged_unless_oversized`). The regional layout judges no dates.
-/

namespace Vitae.Assembler

open Calendar Section Layout

/-- The end of a course of study, by which its tense is judged: the graduation, or else the last date,
if it shows something. -/
def endOf (s : Study) : Option DateValue := firstShown [s.graduationDate, s.endDate]

theorem isJudged_standard_iff {r : Resume} {today : Date} :
    IsJudged .standard r today ↔ ∀ s ∈ r.studies, ¬ HoldsOversized (endOf s) :=
  forall₂_congr fun _ _ => exists_isFuture_iff

theorem exists_education_iff {studies : List Study} {today : Date} :
    (∃ block, Section.education studies today = .ok block) ↔ ∀ s ∈ studies, ¬ HoldsOversized (endOf s) := by
  have hlines : (∀ s ∈ studies, ¬ HoldsOversized (endOf s)) ↔
      ∃ items, studies.mapM (studyLine? today) = .ok items := by
    rw [exists_mapM_iff]
    exact forall₂_congr fun s _ => exists_isFuture_iff.symm.trans (exists_studyLine?_iff today s).symm
  rw [hlines, Section.education]
  constructor
  · rintro ⟨block, h⟩
    obtain ⟨items, hitems, -⟩ := exists_of_bind_eq_ok h
    exact ⟨items, hitems⟩
  · rintro ⟨items, hitems⟩
    exact ⟨_, by rw [hitems]; rfl⟩

theorem exists_renderBody_iff {a : Assembler} {id : String} {r : Resume} {today : Date} :
    (∃ text, (a.renderBody id r today).1 = .ok text) ↔ (a.layoutFor id).IsJudged r today := by
  constructor
  · rintro ⟨text, h⟩
    obtain ⟨bs, hbs, -⟩ := body_eq_ok_iff.mp h
    exact (isJudged_iff _ r today).mpr ⟨bs, hbs⟩
  · intro h
    obtain ⟨-, text, -, htext, -⟩ := exists_renderBody h
    exact ⟨text, htext⟩

/-- **Dates are judged unless they are oversized.** A date field lies ahead when it names a day after
`today`, cannot be judged when it holds an oversized text, and is past in all other cases. What is shown
for a course of study, the block of all courses, and a body of the standard layout are there exactly when
no date to be judged is oversized; a body of the regional layout always is. -/
theorem dates_judged_unless_oversized (today : Date) :
    (∀ value : Option DateValue,
      (isFuture value today = .ok true ↔ NamesAfter value today) ∧
      (isFuture value today = .ok false ↔ ¬ HoldsOversized value ∧ ¬ NamesAfter value today) ∧
      (isFuture value today = .error .monthOfYear ↔ HoldsOversized value)) ∧
    (∀ start graduation : Option DateValue,
      (∃ shown, study start graduation today = .ok shown) ↔ ¬ HoldsOversized graduation) ∧
    (∀ studies : List Study,
      (∃ block, Section.education studies today = .ok block) ↔ ∀ s ∈ studies, ¬ HoldsOversized (endOf s)) ∧
    ∀ (a : Assembler) (id : String) (r : Resume),
      (a.layoutFor id = .standard → ((∃ text, (a.renderBody id r today).1 = .ok text) ↔
        ∀ s ∈ r.studies, ¬ HoldsOversized (endOf s))) ∧
      (a.layoutFor id = .regional → ∃ text, (a.renderBody id r today).1 = .ok text) := by
  refine ⟨fun value => ⟨isFuture_eq_true_iff, isFuture_eq_false_iff, isFuture_eq_error_iff⟩,
    fun start graduation => exists_study_iff, fun studies => exists_education_iff,
    fun a id r => ⟨fun hstandard => ?_, fun hregional => ?_⟩⟩
  · rw [exists_renderBody_iff, hstandard]
    exact isJudged_standard_iff
  · rw [exists_renderBody_iff, hregional]
    trivial

theorem dates_judged_unless_oversized_graduate :
    ∃ text, (renderBody { library := default } "template01" graduate newYear).1 = .ok text := by
  have hlayout : layoutFor { library := default } "template01" = .standard := by decide
  have hjudged : ∀ s ∈ graduate.studies, ¬ HoldsOversized (endOf s) := by
    rw [← isJudged_standard_iff (r := graduate), ← hlayout]
    exact isJudged_graduate
  obtain ⟨-, -, -, hbody⟩ := dates_judged_unless_oversized newYear
  exact ((hbody { library := default } "template01" graduate).1 hlayout).mpr hjudged

/-- A course of study that ends in the least year that does not fit. -/
def lateStudy : Study := { graduationDate := some (.text "1/2147483648") }

/-- The year before can be judged: it is no year of the calendar, so it is past. -/
theorem education_lateStudy :
    isFuture (some (.text "1/2147483647")) newYear = .ok false ∧
      isFuture lateStudy.graduationDate newYear = .error .monthOfYear ∧
      Section.education [lateStudy] newYear = .error .monthOfYear ∧
      (renderBody { library := default } "template01" { studies := [lateStudy] } newYear).1 =
        .error (.date .monthOfYear) := by
  decide

end Vitae.Assembler
