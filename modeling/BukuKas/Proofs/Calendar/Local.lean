import BukuKas.Calendar.Zone
import BukuKas.Proofs.Calendar.Reading
import BukuKas.Proofs.Calendar.Span

/-!
# Local dates

The local date of an instant is found by dividing the seconds that a local clock has gone by those
of a day, and so it is the date that comes as many days after the beginning of 1970.  As long as a
zone keeps its offset its clock runs as evenly as the universal one: no later instant has an earlier
date, and a day later it is the next date.

## Main results

* `inYears_iff` : the bounds of the years in seconds.
* `Zone.dateOf?_eq_some_iff` : when an instant has a local date, and which.
* `Zone.keepsDates` : the dates of a zone while it keeps its offset.
-/

namespace BukuKas.Calendar

/-- The first day of 1970. -/
def Date.epoch : Date := ⟨1970, 1, 1, by decide⟩

/-- So many seconds after the beginning of 1970 a clock shows a second of a date, and so a year from
1 to
9999. -/
def InYears (seconds : Int) : Prop :=
  ∃ (d : Date) (second : Nat), second < 86400 ∧ (Instant.ofReading d second 0).seconds = seconds

/-- The last years are as far away in seconds as in days. -/
theorem inYears_iff {seconds : Int} :
    InYears seconds ↔ 1 ≤ seconds / secondsPerDay + epochNumber ∧
      seconds / secondsPerDay + epochNumber ≤ Date.lastNumber := by
  constructor
  · rintro ⟨d, second, hsecond, rfl⟩
    have hfirst := d.one_le_number
    have hlast := d.number_le_lastNumber
    simp only [Instant.ofReading, secondsPerDay, epochNumber]
    omega
  · rintro ⟨hfirst, hlast⟩
    obtain ⟨d, -, hnumber⟩ :=
      Date.exists_ofNumber? (n :=
        (seconds / secondsPerDay + epochNumber).toNat) (by omega) (by omega)
    refine ⟨d, (seconds % secondsPerDay).toNat, ?_, ?_⟩
    · simp only [secondsPerDay]
      omega
    · simp only [Instant.ofReading, secondsPerDay, epochNumber] at hnumber hfirst ⊢
      omega

namespace Instant

variable {i : Instant} {offset : Int} {d : Date}

/-- The date that a clock shows has the number of the day that it has reached. -/
theorem dateAt?_eq_some_iff : i.dateAt? offset = some d ↔
    (d.number : Int) = (i.seconds + offset) / secondsPerDay + epochNumber := by
  unfold dateAt?
  dsimp only
  constructor
  · intro h
    split at h
    · exact nomatch h
    · have hnumber := Date.number_of_ofNumber? h
      omega
  · intro h
    have hfirst := d.one_le_number
    rw [if_neg (by omega), ← h, Int.toNat_natCast, Date.ofNumber?_number]

theorem exists_dateAt?_iff : (∃ d, i.dateAt? offset = some d) ↔ InYears (i.seconds + offset) := by
  rw [inYears_iff]
  constructor
  · rintro ⟨d, hd⟩
    rw [← dateAt?_eq_some_iff.mp hd]
    have hfirst := d.one_le_number
    have hlast := d.number_le_lastNumber
    omega
  · rintro ⟨hfirst, hlast⟩
    obtain ⟨d, -, hnumber⟩ := Date.exists_ofNumber?
      (n := ((i.seconds + offset) / secondsPerDay + epochNumber).toNat) (by omega) (by omega)
    exact ⟨d, dateAt?_eq_some_iff.mpr (by omega)⟩

end Instant

namespace Zone

variable {z : Zone} {i : Instant} {d : Date}

/-- An instant has a local date when the universal and the local clock show one; it is the date to
which the local clock has gone since the beginning of 1970. -/
theorem dateOf?_eq_some_iff : z.dateOf? i = some d ↔
    InYears i.seconds ∧ Date.epoch.addDays? ((i.seconds + z.offsetAt i) / secondsPerDay) =
      some d := by
  have hepoch : (Date.epoch.number : Int) = epochNumber := by decide
  have huniversal := @Instant.exists_dateAt?_iff i 0
  rw [Int.add_zero] at huniversal
  rw [← huniversal, Date.addDays?_eq_some_iff, hepoch, Int.add_comm epochNumber,
    ← Instant.dateAt?_eq_some_iff]
  unfold dateOf?
  cases i.dateAt? 0 with
  | none => simp
  | some e => simp

theorem number_of_dateOf? (h : z.dateOf? i = some d) :
    (d.number : Int) = Date.epoch.number + (i.seconds + z.offsetAt i) / secondsPerDay :=
  Date.addDays?_eq_some_iff.mp (dateOf?_eq_some_iff.mp h).2

/-- Two instants have the same date when the local clock has gone as many days at both. -/
theorem dateOf?_inj {j : Instant} {e : Date} (hd : z.dateOf? i = some d)
    (he : z.dateOf? j = some e) :
    d = e ↔ (i.seconds + z.offsetAt i) / secondsPerDay = (j.seconds + z.offsetAt j) /
      secondsPerDay := by
  have hdnumber := number_of_dateOf? hd
  have henumber := number_of_dateOf? he
  rw [← Date.number_inj]
  omega

/-- A zone keeps its dates by an offset: the date of an instant is the one to which a clock with
this offset has gone, whichever reading tells the instant; a later instant has no earlier date, and
the date a day later is the next one. -/
structure KeepsDates (z : Zone) (offset : Int) (kept : Instant → Prop) : Prop where
  date : ∀ i, kept i → InYears i.seconds → InYears (i.seconds + offset) →
    ∃ d, z.dateOf? i = some d ∧ Date.epoch.addDays? ((i.seconds + offset) / secondsPerDay) = some d
  reading : ∀ first second : Reading, first.instant = second.instant →
    Instant.ofText? first.text = some first.instant ∧
    Instant.ofText? second.text = some first.instant ∧
      (Instant.ofText? first.text).bind z.dateOf? = (Instant.ofText? second.text).bind z.dateOf?
  later : ∀ i j d e, kept i → kept j → z.dateOf? i = some d → z.dateOf? j = some e →
    i.seconds ≤ j.seconds → d ≤ e
  nextDay : ∀ i j d e, kept i → kept j → z.dateOf? i = some d → z.dateOf? j = some e →
    j.seconds = i.seconds + secondsPerDay → d.addDays? 1 = some e

/-- As long as a zone has one offset, it keeps its dates by it. -/
theorem keepsDates {offset : Int} {kept : Instant → Prop}
    (h : ∀ i, kept i → z.offsetAt i = offset) :
    z.KeepsDates offset kept := by
  have hnumber : ∀ i d, kept i → z.dateOf? i = some d →
      (d.number : Int) = Date.epoch.number + (i.seconds + offset) / secondsPerDay := by
    intro i d hi hd
    rw [← h i hi]
    exact number_of_dateOf? hd
  refine ⟨?date, ?reading, ?later, ?nextDay⟩
  case date =>
    intro i hi huniversal hlocal
    obtain ⟨d, hd⟩ := Instant.exists_dateAt?_iff.mpr hlocal
    have hadd : Date.epoch.addDays? ((i.seconds + offset) / secondsPerDay) = some d := by
      have hepoch : (Date.epoch.number : Int) = epochNumber := by decide
      have hsame := Instant.dateAt?_eq_some_iff.mp hd
      exact Date.addDays?_eq_some_iff.mpr (by omega)
    refine ⟨d, dateOf?_eq_some_iff.mpr ⟨huniversal, ?_⟩, hadd⟩
    rwa [h i hi]
  case reading =>
    intro first second hsame
    have hsecond : Instant.ofText? second.text = some first.instant := by
      rw [hsame]
      exact second.ofText?_text
    exact ⟨first.ofText?_text, hsecond, by rw [first.ofText?_text, hsecond]⟩
  case later =>
    intro i j d e hi hj hd he hle
    rw [Date.le_iff]
    have hdnumber := hnumber i d hi hd
    have henumber := hnumber j e hj he
    simp only [secondsPerDay] at hdnumber henumber
    omega
  case nextDay =>
    intro i j d e hi hj hd he hday
    rw [Date.addDays?_eq_some_iff]
    have hdnumber := hnumber i d hi hd
    have henumber := hnumber j e hj he
    simp only [secondsPerDay] at hdnumber henumber hday
    omega

end Zone

end BukuKas.Calendar
