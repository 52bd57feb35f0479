import BukuKas.Proofs.Authorship
import BukuKas.Proofs.Message.Day
import BukuKas.Proofs.Message.Experience
import BukuKas.Proofs.Score.Level

/-!
# Levels over a history

The level of a user is that of the points of all expenses that the ledger keeps for the user.  At
each moment of a history one of two things happens to these.  Something is recorded for the user,
and the new rows stand behind all others, so what was there before is a part of what is there after;
or nothing is, and then rows can only be lost, so what is there after is a part of what was there
before.  A part of a list earns less than the list, for each amount that is missing at least the
least points, and does not lead to a higher level.

## Main results

* `Score.rises_of_sublist` : how points and levels of a part of a list and of the list compare.
* `Message.rises_of_recording` : what a message that records does to points and level of its user.
* `Message.sublist_of_course` : otherwise the expenses of a user only become fewer.
* `levels_move_with_points` : points, levels, and what a history does to them.
-/

namespace BukuKas

open Calendar (Date)
open Number (Binary64)

/-! ## Parts of lists -/

/-- The second amounts earn more points than the first ones, the least points for each of so many
rows, and do not lead to a lower level. -/
def Score.Rises (rows : Nat) (xs ys : List Binary64) : Prop :=
  ∃ p q, totalPoints xs = .ok p ∧ totalPoints ys = .ok q ∧ p + leastPoints * rows ≤ q ∧
    (Level.ofPoints p).number ≤ (Level.ofPoints q).number

/-- A list earns more points than a part of it. -/
theorem Score.rises_of_sublist {xs ys : List Binary64} (h : xs.Sublist ys)
    (hys : ∃ q, totalPoints ys = .ok q) : Rises (ys.length - xs.length) xs ys := by
  obtain ⟨q, hq⟩ := hys
  obtain ⟨p, hp, hless⟩ := exists_totalPoints_sublist h hq
  refine ⟨p, q, hp, hq, hless, Level.number_ofPoints_mono ?_⟩
  unfold leastPoints at hless
  omega

/-! ## Expenses of a user -/

namespace Ledger

theorem amounts_sublist {rows other : List Row} (h : rows.Sublist other) (user : Int) :
    (amounts rows user).Sublist (amounts other user) :=
  (h.filter _).map _

/-- Rows of expenses of a user stand behind all others of the user. -/
theorem amounts_append {added : List Row} {user : Int} (h : ∀ r ∈ added, r.isExpenseOf user = true)
    (rows : List Row) :
    amounts (rows ++ added) user = amounts rows user ++ added.map fun r => r.amount.toDouble := by
  unfold amounts
  rw [List.filter_append, List.map_append, List.filter_eq_self.mpr h]

/-- All amounts that are kept are finite. -/
def Finite (l : Ledger) : Prop := ∀ r ∈ l.rows, r.amount.toDouble.isFinite = true

theorem Finite.exists_points {l : Ledger} (h : l.Finite) (user : Int) :
    ∃ p, Score.totalPoints (amounts l.rows user) = .ok p := by
  refine Score.exists_totalPoints_iff.mpr fun x hx => ?_
  obtain ⟨r, hr, rfl⟩ := List.mem_map.mp hx
  exact h r (List.mem_filter.mp hr).1

end Ledger

namespace Standing

variable {st last : Standing} {today : Date} {intent : Intent}

/-- Entries that are recorded have rows of the user behind all earlier ones. -/
theorem exists_added {es : List Entry} (h : st.recordAll es = some last) : ∃ added,
    last.rows = st.rows ++ added ∧ added.map Row.entry = es.map Entry.kept ∧
      ∀ r ∈ added, r.isExpenseOf st.chat.user = true := by
  by_cases hnone : es = []
  · subst hnone
    obtain rfl := Option.some.inj h
    exact ⟨[], (List.append_nil _).symm, rfl, nofun⟩
  · obtain ⟨added, hrows, hadded, howned, -⟩ := records_of_recordAll hnone h
    refine ⟨added, hrows, hadded, fun r hr => ?_⟩
    obtain ⟨huser, hkind⟩ := howned r hr
    simp [Row.isExpenseOf, huser, hkind]

/-- An intent that does not record leaves out rows at most. -/
theorem sublist_of_not_records (hrecords : intent.records = false)
    (h : st.after today intent = some last) :
    last.rows.Sublist st.rows := by
  refine after_induction_entries (P :=
    fun other => other.rows.Sublist st.rows) ?_ ?_ ?_ h (List.Sublist.refl _)
  · intro first next e he
    rw [Intent.entries_eq_nil_of_not_records hrecords] at he
    exact nomatch he
  · intro first id hfirst
    exact List.filter_sublist.trans hfirst
  · intro first chat _ _ hfirst
    exact hfirst

end Standing

/-! ## Messages -/

namespace Message

variable {c : Circumstances} {plan : FaultPlan} {m : Message} {s : Service} {today : Date}
variable {intent : Intent} {chat : Chat} {result : Except Fault Response} {after : Desk}

/-- A message that records and is answered with a success has brought in the rows of its entries,
and the user has the points of these rows more than before. -/
theorem rises_of_recording {r : Response} (hintends : m.Intends c today intent)
    (hrecords : intent.records = true) (hchat : s.chats.get? m.phone = some chat)
    (hr : (m.handle c plan s).1 = .ok r) (hstatus : r.status = .ok) :
    ∃ added, (m.handle c plan s).2.service.ledger.rows = s.ledger.rows ++ added ∧
      added.map Row.entry = intent.entries.map Entry.kept ∧
      (∀ row ∈ added, row.isExpenseOf chat.user = true) ∧
      Score.Rises added.length (Ledger.amounts s.ledger.rows chat.user)
        (Ledger.amounts (m.handle c plan s).2.service.ledger.rows chat.user) := by
  have hcourse := course_of_handle c plan m s
  rw [hr] at hcourse
  obtain ⟨found, reply, d, hfound, -, hrun, hcommit, hlast⟩ :=
    answered_of_intends hintends hcourse hstatus
  obtain rfl := Option.some.inj (hfound.symm.trans hchat)
  obtain ⟨last, points, hrecord, hpoints, -⟩ :=
    Reply.acknowledges_answer hrecords (Service.shows_desk hfound) hrun
  obtain ⟨other, hother, hservice⟩ := service_of_answered hfound hrun hcommit
  rw [Standing.after_of_records hrecords, hrecord] at hother
  obtain rfl := Option.some.inj hother
  have hrows : (m.handle c plan s).2.service.ledger.rows = last.rows := by
    rw [hlast, hservice]
    rfl
  obtain ⟨added, hadded, hentries, howned⟩ := Standing.exists_added hrecord
  have hamounts : Ledger.amounts last.rows found.user = Ledger.amounts s.ledger.rows found.user ++
      added.map fun row => row.amount.toDouble := by
    rw [hadded]
    exact Ledger.amounts_append howned _
  rw [hrows]
  refine ⟨added, hadded, hentries, howned, ?_⟩
  have hrises :=
    Score.rises_of_sublist (List.sublist_append_left (Ledger.amounts s.ledger.rows found.user)
    (added.map fun row => row.amount.toDouble)) ⟨points, hamounts ▸ hpoints⟩
  rwa [← hamounts, hamounts, List.length_append, List.length_map, Nat.add_sub_cancel_left,
    ← hamounts] at hrises

/-- Unless a message records something for a user and is answered with a success, the expenses of
the user only become fewer. -/
theorem sublist_of_course (hcourse : Course c plan m s result after) (user : Int) :
    (Ledger.amounts after.service.ledger.rows user).Sublist (Ledger.amounts s.ledger.rows user) ∨
      ∃ r chat intent, result = .ok r ∧ r.status = .ok ∧ s.chats.get? m.phone = some chat ∧
        chat.user = user ∧ m.intent? c = some intent ∧ intent.records = true := by
  rcases settled_of_course hcourse with
    hrows | ⟨r, today, chat, intent, last, rfl, hstatus, -, hintent, hchat, hafter, hservice⟩
  · rw [hrows]
    exact .inl (List.Sublist.refl _)
  · by_cases huser : chat.user = user
    · cases hrecords : intent.records with
      | true => exact .inr ⟨r, chat, intent, rfl, hstatus, hchat, huser, hintent, hrecords⟩
      | false =>
          rw [hservice]
          exact .inl (Ledger.amounts_sublist (Standing.sublist_of_not_records hrecords hafter) user)
    · have hown : ownRows user last.rows = ownRows user s.ledger.rows :=
        Standing.ownRows_after hafter huser
      left
      rw [hservice]
      show (Ledger.amounts last.rows user).Sublist _
      rw [← Ledger.amounts_ownRows, hown, Ledger.amounts_ownRows]

end Message

/-! ## Moments -/

namespace Moment

variable {e : Event} {s : Service} {user : Int}

/-- Entries are recorded for a user at a moment: a phone with a chat of the user says so and is
answered with a success. -/
def Records (user : Int) (entries : List Entry) (now : Moment) : Prop :=
  ∃ phone chat intent, now.before.chats.get? phone = some chat ∧ chat.user = user ∧
    now.intent? phone = some intent ∧ intent.records = true ∧ intent.entries = entries

/-- At a moment that records nothing for a user the expenses of the user only become fewer. -/
theorem sublist_of_not_records (h : ¬∃ entries, (ofEvent e s).Records user entries) :
    (Ledger.amounts (e.happen s).2.ledger.rows user).Sublist
      (Ledger.amounts s.ledger.rows user) := by
  cases e with
  | job threshold plan today gateway which =>
      show List.Sublist
        (Ledger.amounts (which.run threshold plan today gateway s).2.service.ledger.rows user) _
      rw [Job.service_run]
  | message c plan m =>
      rcases Message.sublist_of_course (Message.course_of_handle c plan m s) user with
        hless | ⟨r, chat, intent, hr, hstatus, hchat, huser, hintent, hrecords⟩
      · exact hless
      · exact absurd
          ⟨_, m.phone, chat, intent, hchat, huser, intent?_of_handle hr hstatus hintent,
            hrecords, rfl⟩ h

/-- Amounts that are kept stay finite. -/
theorem finite_happen (h : s.ledger.Finite) (e : Event) : (e.happen s).2.ledger.Finite := by
  cases e with
  | job threshold plan today gateway which =>
      show (which.run threshold plan today gateway s).2.service.ledger.Finite
      rw [Job.service_run]
      exact h
  | message c plan m =>
      intro r hr
      replace hr : r ∈ (m.handle c plan s).2.service.ledger.rows := hr
      rcases Message.rows_of_course (Message.course_of_handle c plan m s) with
        ⟨hrows, -⟩ | ⟨today, chat, intent, last, -, -, hafter, -, hservice⟩
      · exact h r (hrows ▸ hr)
      · rw [hservice] at hr
        rcases Standing.mem_rows_after hafter r hr with hr | ⟨e, -, amount, id, user, hamount, rfl⟩
        · exact h r hr
        · exact (Cash.proper_of_ofDouble? hamount).2

end Moment

/-- Amounts that are finite in the beginning are finite at each moment. -/
theorem History.finite_of_mem_moments {es : List Event} {s : Service} {now : Moment}
    (hs : s.ledger.Finite) (h : now ∈ moments es s) : now.before.ledger.Finite := by
  induction es generalizing s with
  | nil => exact nomatch h
  | cons e es ih =>
      rcases List.mem_cons.mp h with rfl | hlater
      · exact hs
      · exact ih (Moment.finite_happen hs e) hlater

/-- Finite amounts earn at least the least points each, the same in any order, and together what
they earn in two parts.  Points that are not negative have one level, the one that they reach
without reaching the next, and points are missing to a next level exactly when there is one; more
points never lead to a lower level.

So over a history, whoever records gets at least the least points for each row, and no lower level;
and at a moment that records nothing for a user, the user loses at least the least points for each
row that is gone, and has no higher level.  Points are defined as long as all amounts are finite,
and they are when they are in the beginning. -/
theorem levels_move_with_points :
    (∀ xs : List Binary64, (∀ x ∈ xs, x.isFinite = true) → ∃ p, Score.totalPoints xs = .ok p ∧
      Score.leastPoints * xs.length ≤ p ∧ ∀ ys, xs.Perm ys → Score.totalPoints ys = .ok p) ∧
    (∀ xs ys : List Binary64, (∀ x ∈ xs ++ ys, x.isFinite = true) → ∃ p q,
      Score.totalPoints xs = .ok p ∧
      Score.totalPoints ys = .ok q ∧ Score.totalPoints (xs ++ ys) = .ok (p + q)) ∧
    (∀ points, 0 ≤ points →
      (∀ l, l = Score.Level.ofPoints points ↔ l.points = points ∧ ∃ place,
        l.IsIn Score.levels 1 place) ∧
        ((∃ n, (Score.Level.ofPoints points).missing = some n ∧ 0 < n) ↔
          (Score.Level.ofPoints points).number < Score.levels.length)) ∧
    (∀ p q, p ≤ q → (Score.Level.ofPoints p).number ≤ (Score.Level.ofPoints q).number) ∧
    ∀ es s, ∀ now ∈ History.moments es s, ∀ user,
      let before := Ledger.amounts now.before.ledger.rows user
      let after := Ledger.amounts now.after.ledger.rows user
      (∀ entries, now.Records user entries → ∃ added,
        now.after.ledger.rows = now.before.ledger.rows ++ added ∧
        added.map Row.entry = entries.map Entry.kept ∧
        (∀ row ∈ added, row.isExpenseOf user = true) ∧
        Score.Rises added.length before after) ∧
      ((¬∃ entries, now.Records user entries) → after.Sublist before ∧
        ((∃ p, Score.totalPoints before = .ok p) →
          Score.Rises (before.length - after.length) after before)) ∧
      (s.ledger.Finite → ∃ p, Score.totalPoints before = .ok p) := by
  refine ⟨fun xs h => ?_, fun xs ys h => ?_, fun points h => ?_,
    fun p q => Score.Level.number_ofPoints_mono, fun es s now hnow user => ?_⟩
  · obtain ⟨p, hp, hleast⟩ := Score.exists_totalPoints_of_finite h
    exact ⟨p, hp, hleast, fun ys hperm => Score.totalPoints_perm hperm hp⟩
  · obtain ⟨total, htotal⟩ := Score.exists_totalPoints_iff.mpr h
    obtain ⟨p, q, hp, hq, rfl⟩ := Score.of_totalPoints_append htotal
    exact ⟨p, q, hp, hq, htotal⟩
  · exact ⟨Score.Level.eq_ofPoints_iff h, Score.Level.missing_ofPoints_iff h⟩
  · have hfinite (hs : s.ledger.Finite) : now.before.ledger.Finite :=
      History.finite_of_mem_moments hs hnow
    obtain ⟨e, before, rfl⟩ := History.exists_of_mem_moments hnow
    refine ⟨?_, fun hnone => ?_, fun hs => (hfinite hs).exists_points user⟩
    · rintro entries ⟨phone, chat, intent, hchat, rfl, hintent, hrecords, rfl⟩
      obtain ⟨c, plan, m, r, rfl, rfl, hr, hstatus, hread⟩ := Moment.message_of_intent? hintent
      obtain ⟨today, -, hintends⟩ := Message.intends_of_intent? hread
      exact Message.rises_of_recording hintends hrecords hchat hr hstatus
    · have hless := Moment.sublist_of_not_records hnone
      exact ⟨hless, Score.rises_of_sublist hless⟩

/-- A jacket for a hundred and fifty thousand leads to the second level, and is taken back. -/
theorem levels_move_with_points_of_jacket :
    let chat : Chat := { user := 1, email := "budi@gmail.com", name := "budi" }
    let s : Service := { chats := Roster.empty.set "62" chat }
    let c : Circumstances := { settings := {}, now := ⟨1792378800⟩ }
    let sends (text : String) : Message := { sender := "62@c.us", text := some text }
    let record : Event := .message c .none (sends "jaket 150k")
    let undo : Event := .message c .none (sends "!undo")
    let first := Moment.ofEvent record s
    let second := Moment.ofEvent undo first.after
    let amounts (s : Service) := Ledger.amounts s.ledger.rows 1
    History.moments [record, undo] s = [first, second] ∧
      (∃ (entries : List Entry) (added : List Row), first.Records 1 entries ∧
        added.map Row.entry = entries.map Entry.kept ∧
        Score.Rises added.length (amounts s) (amounts first.after)) ∧
      (¬∃ entries, second.Records 1 entries) ∧
      Score.Rises 1 (amounts second.after) (amounts first.after) ∧
      Score.totalPoints (amounts first.after) = .ok 150 ∧
      (Score.Level.ofPoints 150).number = 2 := by
  intro chat s c sends record undo first second amounts
  obtain ⟨-, -, -, -, hmoments⟩ := levels_move_with_points
  have hfirst := hmoments [record, undo] s first List.mem_cons_self 1
  have hsecond := hmoments [record, undo] s second (List.mem_cons_of_mem _ List.mem_cons_self) 1
  let jacket : Entry := ⟨"Jaket", 150000, "Lainnya", ⟨2026, 10, 19, by decide⟩⟩
  have hintent : first.intent? "62" = some (.add jacket) := by decide +kernel
  have hrecords : first.Records 1 [jacket] :=
    ⟨"62", chat, .add jacket, by decide +kernel, rfl, hintent, rfl, rfl⟩
  obtain ⟨added, -, hentries, -, hrises⟩ := hfirst.1 _ hrecords
  have hnone : ¬∃ entries, second.Records 1 entries := by
    rintro ⟨entries, phone, found, intent, -, -, hsaid, hrecorded, -⟩
    obtain ⟨c', plan, m, r, hevent, -, -, -, hread⟩ := Moment.message_of_intent? hsaid
    obtain ⟨rfl, rfl, rfl⟩ := Event.message.inj hevent
    have hundo : (sends "!undo").intent? c = some .undo := by decide +kernel
    obtain rfl := Option.some.inj (hundo.symm.trans hread)
    exact nomatch hrecorded
  have hpoints : Score.totalPoints (amounts first.after) = .ok 150 := by decide +kernel
  have hlost : (amounts first.after).length - (amounts second.after).length = 1 := by decide +kernel
  have hfalls := (hsecond.2.1 hnone).2 ⟨150, hpoints⟩
  exact ⟨rfl, ⟨_, added, hrecords, hentries, hrises⟩, hnone, hlost ▸ hfalls, hpoints,
    by decide +kernel⟩

end BukuKas
