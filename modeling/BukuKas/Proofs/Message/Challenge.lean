import BukuKas.Proofs.Calendar.Month
import BukuKas.Proofs.Message.Asked
import Mathlib.Data.List.Nodup

/-!
# From one challenge to the next

Of the date as a number only the last digit of the day chooses the challenge, since there are ten of
them.  This digit changes from every day to the next of the same month, and where a month ends it
gives way to the one of a first day.  So what stays the same there hangs on the length of the month
alone, and of the four lengths that months have only thirty-one ends like a first day.

## Main results

* `Score.Challenge.ofDate_eq_iff` : when two dates have the same challenge.
* `challenge_of_next_day` : the only days whose challenge is also that of the day behind them.
-/

namespace BukuKas

open Calendar (Date)

namespace Score.Challenge

/-- No challenge stands twice in the list, so its place tells it. -/
theorem ofDate_eq_iff {d e : Date} : ofDate d = ofDate e ↔ d.day % 10 = e.day % 10 := by
  have hlength (date : Date) : index date < all.length := Nat.mod_lt _ (by decide)
  have hplace (date : Date) : ofDate date = all.get ⟨index date, hlength date⟩ := by
    rw [ofDate, List.getElem?_eq_getElem (hlength date)]
    rfl
  have hnodup : all.Nodup := by decide +kernel
  rw [hplace, hplace, hnodup.get_inj_iff, Fin.mk.injEq, index_eq_mod, index_eq_mod]

/-- Where one month ends and the next begins, the challenge stays behind a thirty-first only. -/
theorem mod_eq_of_isLast {first last : Date} (hfirst : first.day = 1) (h : Date.IsLast first last) :
    last.day % 10 = first.day % 10 ↔ last.day = 31 := by
  obtain ⟨-, -, hmonth, htwelve, -, -⟩ := last.isDate
  have hlong := @Date.twentyEight_le_daysInMonth last.year last.month hmonth htwelve
  have hshort := Date.daysInMonth_le last.year last.month
  rw [← h.day] at hlong hshort
  omega

end Score.Challenge

/-- From every date to the next one the challenge changes, except from the thirty-first of a month,
whose challenge is also that of the first of the month behind it.  The challenge of a date is the
one that whoever asks for it on this date is given. -/
theorem challenge_of_next_day {d e : Date} (h : d.addDays? 1 = some e) :
    (Score.Challenge.ofDate d = Score.Challenge.ofDate e ↔ d.day = 31) ∧
      ∀ (s : Service) (c : Circumstances) (m : Message) (phone word : String) (chat : Chat)
        (today : Date),
        s.chats.get? phone = some chat → (word, .challenge) ∈ Command.wordCommands →
        m.Asks c today phone word →
        (m.handle c .none s).1 =
          .ok (.ofText ("🎯 *Tantangan Hari Ini* (" ++ today.text ++ ")\n\n" ++
          Score.Challenge.ofDate today)) := by
  constructor
  · rw [Score.Challenge.ofDate_eq_iff]
    rcases Date.nextDay_cases h with ⟨-, -, hday⟩ | ⟨hfirst, hlast⟩
    · -- the next day of the same month is no later than a thirty-first
      have hbound := Date.daysInMonth_le e.year e.month
      have hshort := e.isDate.2.2.2.2.2
      omega
    · exact Score.Challenge.mod_eq_of_isLast hfirst hlast
  · intro s c m phone word chat today hchat hword hasks
    exact hasks.answered hword hchat rfl

/-- The year ends with a thirty-first, and the leap day is no such end. -/
theorem challenge_of_next_day_of_ends :
    let eve : Date := ⟨2027, 12, 31, by decide⟩
    let newYear : Date := ⟨2028, 1, 1, by decide⟩
    let leap : Date := ⟨2028, 2, 29, by decide⟩
    let march : Date := ⟨2028, 3, 1, by decide⟩
    Score.Challenge.ofDate eve = Score.Challenge.ofDate newYear ∧
      Score.Challenge.ofDate leap ≠ Score.Challenge.ofDate march := by
  intro eve newYear leap march
  obtain ⟨hsame, -⟩ := challenge_of_next_day (d := eve) (e := newYear) (by decide +kernel)
  obtain ⟨hother, -⟩ := challenge_of_next_day (d := leap) (e := march) (by decide +kernel)
  exact ⟨hsame.mpr rfl, fun h => absurd (hother.mp h) (by decide)⟩

/-- January ends with the challenge with which February begins. -/
theorem challenge_of_january_end :
    let last : Date := ⟨2026, 1, 31, by decide⟩
    let first : Date := ⟨2026, 2, 1, by decide⟩
    last.addDays? 1 = some first ∧ Score.Challenge.ofDate last = Score.Challenge.ofDate first := by
  decide +kernel

end BukuKas
