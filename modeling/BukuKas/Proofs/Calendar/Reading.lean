import BukuKas.Calendar.Month
import BukuKas.Calendar.Timestamp
import BukuKas.Proofs.Text.Digits

/-!
# Clock readings and their texts

A timestamp says what some clock shows: a date, a time to the second and perhaps to a fraction of
it, and the offset of the clock, which is universal time when no offset is written.  What is written
so is read again, whatever the offset; so the text of a reading means the instant at which the clock
shows it.

## Main results

* `takeDigits?_padded` : a number of a fixed width is read as it is written.
* `Reading.ofText?_text` : the text of a reading means its instant.
-/

namespace BukuKas.Calendar

open Number (takeDigits? tenTo)

/-! ## Numbers of a fixed width -/

theorem takeDigits?_append {ds : List Char} (h : ∀ d ∈ ds, d.isDigit = true) (rest : List Char) :
    takeDigits? ds.length (ds ++ rest) = some (Nat.ofDigitChars 10 ds 0, rest) := by
  induction ds with
  | nil => rfl
  | cons d ds ih =>
      obtain ⟨hd, hds⟩ := List.forall_mem_cons.mp h
      have hvalue : Nat.ofDigitChars 10 (d :: ds) 0 =
          (d.toNat - 48) * tenTo ds.length + Nat.ofDigitChars 10 ds 0 := by
        rw [Nat.ofDigitChars_cons, Nat.ofDigitChars_eq_ofDigitChars_zero, Nat.mul_zero,
          Nat.zero_add, Nat.mul_comm]
        rfl
      rw [List.length_cons, List.cons_append, takeDigits?, if_pos hd, ih hds, hvalue]
      rfl

/-- A number that fits a width is read as it is written with zeros before it. -/
theorem takeDigits?_padded {width n : Nat} (hwidth : 0 < width) (h : n < tenTo width)
    (rest : List Char) :
    takeDigits? width ((Date.padded width n).toList ++ rest) = some (n, rest) := by
  have hdigits : ∀ d ∈ Nat.toDigits 10 n, d.isDigit = true := fun d hd =>
    Nat.isDigit_of_mem_toDigits (by decide) (by decide) hd
  have hshort : (Nat.toDigits 10 n).length ≤ width :=
    (Nat.length_toDigits_le_iff (by decide) hwidth).mpr h
  have htext : (Date.padded width n).toList =
      List.replicate (width - (Nat.toDigits 10 n).length) '0' ++ Nat.toDigits 10 n := by
    rw [Date.padded, String.toList_ofList, Nat.toList_repr]
  have hlength : (Date.padded width n).toList.length = width := by
    rw [htext, List.length_append, List.length_replicate]
    omega
  have hall : ∀ d ∈ (Date.padded width n).toList, d.isDigit = true := by
    intro d hd
    rw [htext] at hd
    rcases List.mem_append.mp hd with hzero | hdigit
    · rw [List.eq_of_mem_replicate hzero]
      rfl
    · exact hdigits d hdigit
  have hread := takeDigits?_append hall rest
  rw [hlength, htext, Nat.ofDigitChars_append, Nat.ofDigitChars_replicate_zero, Nat.mul_zero,
    Nat.ofDigitChars_toDigits (by decide) (by decide), ← htext] at hread
  exact hread

/-- A number of two digits is read as it is written. -/
theorem takeDigits?_two {n : Nat} (h : n < 100) (rest : List Char) :
    takeDigits? 2 ((Date.padded 2 n).toList ++ rest) = some (n, rest) :=
  takeDigits?_padded (by decide) h rest

/-! ## Readings -/

/-- The offset of a clock from universal time: to the east or to the west, in hours and minutes. -/
structure ClockOffset where
  east : Bool
  hour : Fin 24
  minute : Fin 60

/-- What a clock shows, with the digits of a fraction of a second, and its offset, if one is
known. -/
structure Reading where
  date : Date
  hour : Fin 24
  minute : Fin 60
  second : Fin 60
  fraction : List (Fin 10) := []
  offset : Option ClockOffset := none

namespace ClockOffset

/-- The offset in seconds. -/
def seconds (o : ClockOffset) : Int :=
  let size : Nat := o.hour * 3600 + o.minute * 60
  if o.east then size else -(size : Int)

/-- The offset as it is written, as in `+07:00`. -/
def text (o : ClockOffset) : String :=
  (if o.east then "+" else "-") ++ Date.padded 2 o.hour ++ ":" ++ Date.padded 2 o.minute

end ClockOffset

namespace Reading

/-- The second of the day that the clock shows. -/
def secondOfDay (r : Reading) : Nat := r.hour * 3600 + r.minute * 60 + r.second

/-- The instant at which the clock shows the reading, the fraction of a second being dropped.  A
clock without an offset is one of universal time. -/
def instant (r : Reading) : Instant :=
  .ofReading r.date r.secondOfDay ((r.offset.map ClockOffset.seconds).getD 0)

/-- The digits of a fraction behind a point, nothing when there are none. -/
def fractionText : List (Fin 10) → String
  | [] => ""
  | d :: ds => "." ++ String.ofList ((d :: ds).map fun (d : Fin 10) => Nat.digitChar d)

/-- The reading as it is written, as in `2026-10-19T23:59:59.5+07:00`. -/
def text (r : Reading) : String :=
  r.date.text ++ "T" ++ Date.padded 2 r.hour ++ ":" ++ Date.padded 2 r.minute ++ ":" ++
    Date.padded 2 r.second ++ fractionText r.fraction ++ (r.offset.map ClockOffset.text).getD ""

end Reading

/-! ## Reading what is written -/

namespace Instant

theorem date?_text (d : Date) (rest : List Char) :
    date? (d.text.toList ++ rest) = some (d, rest) := by
  obtain ⟨-, hyear, -, hmonth, -, hday⟩ := d.isDate
  have hlast := Date.daysInMonth_le d.year d.month
  have htext : d.text.toList ++ rest = (Date.padded 4 d.year).toList ++
      '-' :: ((Date.padded 2 d.month).toList ++ '-' :: ((Date.padded 2 d.day).toList ++ rest)) := by
    simp [Date.text]
  have hfour (rest : List Char) : takeDigits? 4 ((Date.padded 4 d.year).toList ++ rest) =
      some (d.year, rest) :=
    takeDigits?_padded (by decide) (show d.year < 10000 by omega) rest
  rw [htext, date?, hfour]
  simp [takeDigits?_two (show d.month < 100 by omega), takeDigits?_two (show d.day < 100 by omega)]

theorem hourMinute?_text (hour : Fin 24) (minute : Fin 60) (rest : List Char) :
    hourMinute? ((Date.padded 2 hour).toList ++ ':' :: ((Date.padded 2 minute).toList ++ rest)) =
      some (hour.val * 3600 + minute.val * 60, rest) := by
  rw [hourMinute?, takeDigits?_two (by omega)]
  simp [takeDigits?_two (show minute.val < 100 by omega)]

/-- A fraction of a second is dropped, and what follows is left, if it cannot be taken for a part of
it. -/
theorem time?_text (r : Reading) {rest : List Char}
    (h : ∀ c ∈ rest.head?, c ≠ '.' ∧ c ≠ ',' ∧ c.isDigit = false) :
    time? ((Date.padded 2 r.hour).toList ++ ':' :: ((Date.padded 2 r.minute).toList ++
        ':' :: ((Date.padded 2 r.second).toList ++
          ((Reading.fractionText r.fraction).toList ++ rest)))) =
      some (r.secondOfDay, rest) := by
  have hless : ¬60 ≤ r.second.val := by omega
  rw [time?, hourMinute?_text]
  simp only [Option.bind_eq_bind, Option.bind_some,
    takeDigits?_two (show r.second.val < 100 by omega), if_neg hless]
  cases r.fraction with
  | nil =>
      cases rest with
      | nil => rfl
      | cons c rest =>
          obtain ⟨hpoint, hcomma, -⟩ := h c rfl
          simp [Reading.fractionText, Reading.secondOfDay, hpoint, hcomma]
  | cons d ds =>
      let digits := (d :: ds).map fun (d : Fin 10) => Nat.digitChar d
      have hdigits : ∀ c ∈ digits, c.isDigit = true := by
        intro c hc
        obtain ⟨n, -, rfl⟩ := List.mem_map.mp hc
        exact (by decide : ∀ n : Fin 10, (Nat.digitChar n).isDigit = true) n
      have htext : (Reading.fractionText (d :: ds)).toList ++ rest = '.' :: (digits ++ rest) := by
        simp [Reading.fractionText, digits]
      have hdrop : (digits ++ rest).dropWhile Char.isDigit = rest := by
        rw [List.dropWhile_append_of_pos hdigits]
        exact Text.dropWhile_of_head? fun c hc => (h c hc).2.2
      have hne : digits ≠ [] := List.cons_ne_nil _ _
      rw [htext]
      simp [hdrop, hne, Reading.secondOfDay]

theorem offset?_text (o : ClockOffset) : offset? o.text.toList = some o.seconds := by
  have htext : o.text.toList = (if o.east then '+' else '-') ::
      ((Date.padded 2 o.hour).toList ++ ':' :: (Date.padded 2 o.minute).toList) := by
    cases heast : o.east <;> simp [ClockOffset.text, heast]
  have hhour : o.hour.val < 100 := by omega
  have hminute : takeDigits? 2 (Date.padded 2 o.minute).toList = some (o.minute.val, []) := by
    rw [← List.append_nil (Date.padded 2 o.minute).toList]
    exact takeDigits?_two (by omega) []
  have hsize : o.hour.val * 3600 + o.minute.val * 60 < 86400 := by omega
  rw [htext, ClockOffset.seconds]
  cases o.east <;> simp [offset?, takeDigits?_two hhour, hminute, hsize]

end Instant

/-- The text of a reading means the instant at which the clock shows it. -/
theorem Reading.ofText?_text (r : Reading) : Instant.ofText? r.text = some r.instant := by
  have htext : r.text.toList = r.date.text.toList ++ 'T' :: ((Date.padded 2 r.hour).toList ++
      ':' :: ((Date.padded 2 r.minute).toList ++ ':' :: ((Date.padded 2 r.second).toList ++
        ((fractionText r.fraction).toList ++
          ((r.offset.map ClockOffset.text).getD "").toList)))) := by
    simp [text]
  have hoffset : Instant.offset? ((r.offset.map ClockOffset.text).getD "").toList =
      some ((r.offset.map ClockOffset.seconds).getD 0) := by
    cases r.offset with
    | none => rfl
    | some o => exact Instant.offset?_text o
  have hsign : ∀ c ∈ ((r.offset.map ClockOffset.text).getD "").toList.head?,
      c ≠ '.' ∧ c ≠ ',' ∧ c.isDigit = false := by
    cases r.offset with
    | none => exact fun c hc => nomatch hc
    | some o => cases heast : o.east <;> simp [ClockOffset.text, heast]
  rw [Instant.ofText?, Instant.dateTime?, htext, Instant.date?_text]
  simp [Instant.time?_text r hsign, hoffset, instant]

end BukuKas.Calendar
