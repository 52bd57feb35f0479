import BukuKas.Proofs.Work.Rule
import BukuKas.Reply.Answer

/-!
# Rules for answers

Every answer works for one user: it asks only about the user of the chat, and saves only the chat of
that user.  Most intents only ask, and their answers change nothing at all.

Two replies are worth telling apart from all others by how they begin: silence, which only a text
that was not understood is met with, and the word that a recording was taken back.

## Main results

* `keeps_answer` : the rule for all intents, with the intents that the two replies are given to.
* `keeps_answer_of_asksOnly` : intents that only ask are answered by reading.
-/

namespace BukuKas

/-- Whether an intent asks for something and changes nothing. -/
def Intent.asksOnly : Intent → Bool
  | .add _ => false
  | .addMany _ => false
  | .undo => false
  | .delete _ => false
  | .addReminder _ _ => false
  | .deleteReminder _ => false
  | .setAlert _ => false
  | _ => true

namespace Reply

open Calendar (Date)

/-- The text of a reply that says that the last recording was taken back. -/
def takenBack : String := "↩️ Transaksi terakhir berhasil dibatalkan."

/-- The first character of a reply. -/
def opening (r : Reply) : Option Char := r.text.bind fun text => text.toList.head?

/-- The reply says something, and begins otherwise than the word that a recording was taken back. -/
def Ordinary (r : Reply) : Prop := ∃ c, r.opening = some c ∧ c ≠ '↩'

theorem Ordinary.text_ne_none {r : Reply} (h : r.Ordinary) : r.text ≠ none := by
  intro hnone
  obtain ⟨c, hc, -⟩ := h
  simp [opening, hnone] at hc

theorem Ordinary.text_ne_takenBack {r : Reply} (h : r.Ordinary) : r.text ≠ some takenBack := by
  intro htext
  obtain ⟨c, hc, hne⟩ := h
  simp only [opening, htext, takenBack, Option.bind_some, String.reduceToList, List.head?_cons,
    Option.some.injEq] at hc
  exact hne hc.symm

theorem ordinary_ofText {text : String} {c : Char} (h : text.toList.head? = some c)
    (hc : c ≠ '↩') : (ofText text).Ordinary :=
  ⟨c, h, hc⟩

/-- A reply of lines begins as its first line does. -/
theorem ordinary_joinLines {line : String} {lines : List String} {r : Reply} {c : Char}
    (htext : r.text = some (joinLines (line :: lines))) (h : line.toList.head? = some c)
    (hc : c ≠ '↩') : r.Ordinary := by
  refine ⟨c, ?_, hc⟩
  have hjoin : (joinLines (line :: lines)).toList.head? = some c := by
    cases lines with
    | nil => simpa [joinLines] using h
    | cons second rest =>
        simp only [joinLines, String.intercalate_cons_cons, String.toList_append, List.append_assoc,
          List.head?_append, h]
        rfl
  simp only [opening, htext, Option.bind_some, hjoin]

/-! ## What several answers share -/

section Shared

variable {rule : Rule}

theorem keeps_budgetStatus (user : Int) :
    (budgetStatus user).Keeps (Rule.sums user) fun _ => True := by
  refine Work.keeps_bind (Work.keeps_query ⟨rfl, rfl, rfl⟩) ?_
  intro period _
  cases (period : Option Period) with
  | none => trivial
  | some p => exact Work.keeps_bind (Work.keeps_query ⟨rfl, rfl, rfl⟩) fun _ _ => trivial

theorem keeps_alertLines (threshold : Number.Binary64) (chat : Chat) :
    (alertLines threshold chat).Keeps (Rule.sums chat.user) fun _ => True := by
  unfold alertLines
  split
  · apply Work.keeps_bind (keeps_budgetStatus chat.user)
    intro status _
    split <;> trivial
  · trivial

theorem keeps_experienceLine (user earned : Int) :
    (experienceLine user earned).Keeps (Rule.sums user) fun _ => True := by
  refine Work.keeps_bind (Work.keeps_query ⟨rfl, rfl, rfl⟩) ?_
  intro amounts _
  exact Work.keeps_bind (Work.keeps_ofExcept _) fun _ _ => trivial

theorem keeps_shift (d : Date) (days : Int) : (shift d days).Keeps rule fun _ => True :=
  Work.keeps_mono (Work.keeps_ofExcept _) (Rule.Within.refl rule) fun _ _ => trivial

end Shared

/-! ## Questions -/

section Questions

variable (o : Occasion) (chat : Chat)

theorem ordinary_noPeriod : noPeriod.Ordinary := ordinary_ofText (c := '❌') (by simp) (by decide)

theorem keeps_remaining : (remaining o chat).Keeps (Rule.sums chat.user) Ordinary := by
  apply Work.keeps_bind (keeps_budgetStatus chat.user)
  intro status _
  cases status with
  | none => exact ordinary_noPeriod
  | some status =>
      apply Work.keeps_bind (Work.keeps_ofExcept _)
      intro percent _
      exact ordinary_joinLines (c := '💵') rfl (by simp) (by decide)

theorem keeps_spending : (spending o chat).Keeps (Rule.sums chat.user) Ordinary := by
  refine Work.keeps_bind (Work.keeps_query ⟨rfl, rfl, rfl⟩) ?_
  intro period _
  refine Work.keeps_bind (Work.keeps_query ⟨rfl, rfl, rfl⟩) ?_
  intro totals _
  exact ordinary_joinLines (c := '📊') rfl (by simp) (by decide)

theorem keeps_today : (today o chat).Keeps (Rule.reading chat.user) Ordinary := by
  refine Work.keeps_bind (Work.keeps_query ⟨rfl, rfl⟩) ?_
  intro rows _
  show (dayList o.today rows).Ordinary
  unfold dayList
  split
  · exact ordinary_ofText (c := '📋') (by simp) (by decide)
  · exact ordinary_joinLines (c := '📋') rfl (by simp) (by decide)

theorem keeps_weekly : (weekly o chat).Keeps (Rule.sums chat.user) Ordinary := by
  apply Work.keeps_bind (keeps_shift _ _)
  intro start _
  refine Work.keeps_bind (Work.keeps_query ⟨rfl, rfl, rfl⟩) ?_
  intro daily _
  refine Work.keeps_bind (Work.keeps_query ⟨rfl, rfl, rfl⟩) ?_
  intro totals _
  exact ordinary_joinLines (c := '📆') rfl (by simp) (by decide)

theorem keeps_comparison : (comparison o chat).Keeps (Rule.sums chat.user) Ordinary := by
  apply Work.keeps_bind (Work.keeps_ofExcept _)
  intro w _
  refine Work.keeps_bind (Work.keeps_query ⟨rfl, rfl, rfl⟩) ?_
  intro now _
  refine Work.keeps_bind (Work.keeps_query ⟨rfl, rfl, rfl⟩) ?_
  intro before _
  refine Work.keeps_bind (Work.keeps_query ⟨rfl, rfl, rfl⟩) ?_
  intro full _
  exact ordinary_joinLines (c := '📈') rfl (by simp) (by decide)

theorem keeps_prediction : (prediction o chat).Keeps (Rule.sums chat.user) Ordinary := by
  apply Work.keeps_bind (keeps_budgetStatus chat.user)
  intro status _
  cases status with
  | none => exact ordinary_noPeriod
  | some status =>
      dsimp only
      split
      · trivial
      · exact ordinary_joinLines (c := '🔮') rfl (by simp) (by decide)

theorem keeps_recap : (recap o chat).Keeps (Rule.reading chat.user) Ordinary := by
  refine Work.keeps_bind (Work.keeps_query ⟨rfl, rfl⟩) ?_
  intro period _
  refine Work.keeps_bind (Work.keeps_query ⟨rfl, rfl⟩) ?_
  intro rows _
  refine Work.keeps_bind (Work.keeps_query ⟨rfl, rfl⟩) ?_
  intro amounts _
  apply Work.keeps_bind (Work.keeps_ofExcept _)
  intro points _
  apply Work.keeps_bind (Work.keeps_ofExcept _)
  intro budget _
  exact ordinary_joinLines (c := '🧾') rfl (by simp) (by decide)

theorem keeps_health : (health o chat).Keeps (Rule.sums chat.user) Ordinary := by
  apply Work.keeps_bind (keeps_budgetStatus chat.user)
  intro status _
  cases status with
  | none => exact ordinary_noPeriod
  | some status =>
      dsimp only
      split
      · exact ordinary_noPeriod
      · apply Work.keeps_bind (Work.keeps_ofExcept _)
        intro grade _
        exact ordinary_joinLines (c := '🩺') rfl (by simp) (by decide)

theorem keeps_moodOf (user : Int) (day : Date) :
    (moodOf user day).Keeps (Rule.sums user) fun found =>
      ∃ today average, found.2.2 = Score.Mood.ofDay today average := by
  refine Work.keeps_bind (Work.keeps_query ⟨rfl, rfl, rfl⟩) ?_
  intro spent _
  apply Work.keeps_bind (keeps_shift _ _)
  intro start _
  apply Work.keeps_bind (keeps_shift _ _)
  intro stop _
  refine Work.keeps_bind (Work.keeps_query ⟨rfl, rfl, rfl⟩) ?_
  intro before _
  exact ⟨_, _, rfl⟩

/-- A grade is one of the scale, or the last one. -/
theorem gradeOf_mem {α : Type} (ratio : Number.Binary64) (last : α)
    (scale : List (Number.Binary64 × α)) :
    Score.gradeOf ratio last scale ∈ last :: scale.map Prod.snd := by
  induction scale with
  | nil => simp [Score.gradeOf]
  | cons first more ih =>
      rw [Score.gradeOf]
      split
      · simp
      · rcases List.mem_cons.mp ih with h | h
        · simp [h]
        · simp [List.mem_map.mp h]

/-- The face of a mood is one of five. -/
theorem face_ofDay (today average : Number.Binary64) :
    (Score.Mood.ofDay today average).face ∈ ["🤯", "😇", "😊", "🙂", "😬"] := by
  have h := List.mem_map_of_mem (f := Prod.snd)
    (gradeOf_mem (Score.Mood.ratioOf today average) ("Sangat Boros", "🤯") Score.Mood.scale)
  exact h

theorem keeps_mood : (mood o chat).Keeps (Rule.sums chat.user) Ordinary := by
  apply Work.keeps_bind (keeps_moodOf chat.user o.today)
  intro found hfound
  obtain ⟨spent, average, mood⟩ := found
  obtain ⟨today, before, hmood⟩ := hfound
  have hface := face_ofDay today before
  rw [← hmood] at hface
  simp only [List.mem_cons, List.not_mem_nil, or_false] at hface
  dsimp only
  rcases hface with h | h | h | h | h
  · exact ordinary_ofText (c := '🤯') (by simp [h]) (by decide)
  · exact ordinary_ofText (c := '😇') (by simp [h]) (by decide)
  · exact ordinary_ofText (c := '😊') (by simp [h]) (by decide)
  · exact ordinary_ofText (c := '🙂') (by simp [h]) (by decide)
  · exact ordinary_ofText (c := '😬') (by simp [h]) (by decide)

end Questions

/-! ## Recordings, reminders and the alert -/

section Changes

variable (o : Occasion) (chat : Chat)

theorem keeps_add (e : Entry) : (add o chat e).Keeps (Rule.writing chat) Ordinary := by
  refine Work.keeps_bind (Work.keeps_query rfl) ?_
  intro recording _
  apply Work.keeps_bind (Work.keeps_put rfl)
  intro _ _
  apply Work.keeps_bind (Work.keeps_ofExcept _)
  intro earned _
  refine Work.keeps_bind (Work.keeps_mono (keeps_experienceLine chat.user earned)
    (Rule.sums_within_writing chat) fun _ h => h) fun experience _ => ?_
  refine Work.keeps_bind (Work.keeps_mono (keeps_alertLines o.threshold _)
    (Rule.sums_within_writing _) fun _ h => h) fun warning _ => ?_
  exact ordinary_joinLines (c := '✅') rfl (by simp) (by decide)

/-- A chat that recordings have gone through is still that of the same user. -/
theorem keeps_addAll (earned : Int) (es : List Entry) :
    (addAll chat earned es).Keeps (Rule.writing chat) fun r => chat.restore r.1 = r.1 := by
  induction es generalizing chat earned with
  | nil => exact Chat.restore_self chat
  | cons e es ih =>
      refine Work.keeps_bind (Work.keeps_query rfl) ?_
      intro recording _
      apply Work.keeps_bind (Work.keeps_put rfl)
      intro _ _
      apply Work.keeps_bind (Work.keeps_ofExcept _)
      intro points _
      exact ih { chat with last := some recording.id } (earned + points)

theorem keeps_addMany (es : List Entry) :
    (addMany o chat es).Keeps (Rule.writing chat) Ordinary := by
  apply Work.keeps_bind (keeps_addAll chat 0 es)
  intro recorded hrecorded
  obtain ⟨after, earned⟩ := recorded
  have hrule : Rule.writing after = Rule.writing chat := by
    dsimp only at hrecorded
    rw [← hrecorded]
    rfl
  rw [← hrule]
  refine Work.keeps_bind (Work.keeps_mono (keeps_experienceLine after.user earned)
    (Rule.sums_within_writing after) fun _ h => h) fun experience _ => ?_
  refine Work.keeps_bind (Work.keeps_mono (keeps_alertLines o.threshold after)
    (Rule.sums_within_writing after) fun _ h => h) fun warning _ => ?_
  exact ordinary_joinLines (c := '✅') rfl (by simp) (by decide)

theorem keeps_undo : (undo chat).Keeps (Rule.writing chat) fun r => r.text ≠ none := by
  unfold undo
  split
  · exact nofun
  · refine Work.keeps_bind (Work.keeps_query rfl) ?_
    intro removed _
    apply Work.keeps_bind (Work.keeps_put rfl)
    intro _ _
    split <;> exact nofun

theorem keeps_delete (index : Int) :
    (delete o chat index).Keeps (Rule.writing chat) Ordinary := by
  refine Work.keeps_bind (Work.keeps_query rfl) ?_
  intro rows _
  split
  · exact ordinary_ofText (c := 'ℹ') (by simp) (by decide)
  · split
    · exact ordinary_ofText (c := '❌') (by simp) (by decide)
    · refine Work.keeps_bind (Work.keeps_query rfl) ?_
      intro _ _
      split
      · apply Work.keeps_bind (Work.keeps_put rfl)
        intro _ _
        exact ordinary_ofText (c := '🗑') (by simp) (by decide)
      · exact ordinary_ofText (c := '🗑') (by simp) (by decide)

theorem ordinary_listReminders (reminders : List Reminder) :
    (listReminders reminders).Ordinary := by
  unfold listReminders
  split
  · exact ordinary_ofText (c := '📭') (by simp) (by decide)
  · exact ordinary_joinLines (c := '⏰') rfl (by simp) (by decide)

theorem keeps_addReminder (name : String) (day : Int) :
    (addReminder chat name day).Keeps (Rule.writing chat) Ordinary := by
  apply Work.keeps_bind (Work.keeps_put rfl)
  intro _ _
  exact ordinary_ofText (c := '⏰') (by simp) (by decide)

theorem keeps_deleteReminder (index : Int) :
    (deleteReminder chat index).Keeps (Rule.writing chat) Ordinary := by
  unfold deleteReminder
  split
  · exact ordinary_ofText (c := 'ℹ') (by simp) (by decide)
  · split
    · exact ordinary_ofText (c := '❌') (by simp) (by decide)
    · apply Work.keeps_bind (Work.keeps_put rfl)
      intro _ _
      exact ordinary_ofText (c := '🗑') (by simp) (by decide)

theorem keeps_setAlert (enabled : Bool) :
    (setAlert chat enabled).Keeps (Rule.writing chat) Ordinary := by
  apply Work.keeps_bind (Work.keeps_put rfl)
  intro _ _
  exact ordinary_ofText (c := 'P') (by simp) (by decide)

end Changes

/-! ## All answers -/

/-- A reply that an intent may get: silence only when it was not understood, and the word that a
recording was taken back only when that was asked for. -/
def Suits (intent : Intent) (r : Reply) : Prop :=
  (r.text = none → ∃ text, intent = .unknown text) ∧ (r.text = some takenBack → intent = .undo)

theorem Ordinary.suits {r : Reply} (h : r.Ordinary) (intent : Intent) : Suits intent r :=
  ⟨fun hnone => absurd hnone h.text_ne_none, fun htext => absurd htext h.text_ne_takenBack⟩

/-- A hint is no word about a recording. -/
theorem hint?_ne_takenBack (text : List Char) : Command.hint? text ≠ some takenBack := by
  intro h
  unfold Command.hint? at h
  dsimp only at h
  split at h
  · split at h
    · exact nomatch h
    · obtain ⟨found, hfound, htext⟩ := Option.map_eq_some_iff.mp h
      have hmem := List.mem_of_find?_eq_some hfound
      have hall : ∀ hint ∈ Command.hints, hint.2 ≠ takenBack := by decide
      exact hall found hmem htext
  · exact nomatch h

/-- Intents that only ask are answered by reading. -/
theorem keeps_answer_of_asksOnly (o : Occasion) (chat : Chat) {intent : Intent}
    (h : intent.asksOnly = true) :
    (answer o (some chat) intent).Keeps (Rule.reading chat.user) (Suits intent) := by
  have hsums {t : Work Reply} (ht : t.Keeps (Rule.sums chat.user) Ordinary) :
      t.Keeps (Rule.reading chat.user) (Suits intent) :=
    Work.keeps_mono ht (Rule.sums_within_reading chat.user) fun _ hr => hr.suits intent
  have hreading {t : Work Reply} (ht : t.Keeps (Rule.reading chat.user) Ordinary) :
      t.Keeps (Rule.reading chat.user) (Suits intent) :=
    Work.keeps_mono ht (Rule.Within.refl _) fun _ hr => hr.suits intent
  cases intent with
  | add _ | addMany _ | undo | delete _ | addReminder _ _ | deleteReminder _ | setAlert _ =>
      exact nomatch h
  | remaining => exact hsums (keeps_remaining o chat)
  | spending => exact hsums (keeps_spending o chat)
  | today => exact hreading (keeps_today o chat)
  | weekly => exact hsums (keeps_weekly o chat)
  | comparison => exact hsums (keeps_comparison o chat)
  | prediction => exact hsums (keeps_prediction o chat)
  | recap => exact hreading (keeps_recap o chat)
  | health => exact hsums (keeps_health o chat)
  | mood => exact hsums (keeps_mood o chat)
  | listReminders => exact (ordinary_listReminders chat.reminders).suits _
  | categories => exact (ordinary_joinLines (c := '*') rfl (by simp) (by decide)).suits _
  | challenge => exact (ordinary_ofText (c := '🎯') (by simp) (by decide)).suits _
  | tip => exact (ordinary_ofText (c := '💡') (by simp) (by decide)).suits _
  | help => exact (ordinary_joinLines (c := '📱') rfl (by simp) (by decide)).suits _
  | unknown text =>
      exact ⟨fun _ => ⟨text, rfl⟩, fun htext => absurd htext (hint?_ne_takenBack text.toList)⟩

/-- Every answer works for the user of the chat. -/
theorem keeps_answer (o : Occasion) (chat : Chat) (intent : Intent) :
    (answer o (some chat) intent).Keeps (Rule.writing chat) (Suits intent) := by
  have hwriting {t : Work Reply} (ht : t.Keeps (Rule.writing chat) Ordinary) :
      t.Keeps (Rule.writing chat) (Suits intent) :=
    Work.keeps_mono ht (Rule.Within.refl _) fun _ hr => hr.suits intent
  cases hasks : intent.asksOnly with
  | true =>
      exact Work.keeps_mono (keeps_answer_of_asksOnly o chat hasks)
        (Rule.reading_within_writing chat) fun _ hr => hr
  | false =>
      cases intent with
      | add e => exact hwriting (keeps_add o chat e)
      | addMany es => exact hwriting (keeps_addMany o chat es)
      | undo =>
          refine Work.keeps_mono (keeps_undo chat) (Rule.Within.refl _) fun r hr => ?_
          exact ⟨fun hnone => absurd hnone hr, fun _ => rfl⟩
      | delete index => exact hwriting (keeps_delete o chat index)
      | addReminder name day => exact hwriting (keeps_addReminder chat name day)
      | deleteReminder index => exact hwriting (keeps_deleteReminder chat index)
      | setAlert enabled => exact hwriting (keeps_setAlert chat enabled)
      | _ => exact nomatch hasks

end Reply

end BukuKas
