import BukuKas.Proofs.Message.Batch
import BukuKas.Proofs.Message.Meaning
import BukuKas.Proofs.Reply.Warning
import BukuKas.Proofs.Score.Kept

/-!
# Points that are told and points that are earned

The reply to a recording tells how many points it earned, and the level that all points of the user
lead to.  The points are worked out from the amounts as they were read, the level from the amounts
as the ledger keeps them.  So the points of the user grow by those of the kept amounts, which are
those that are told, and one more for each amount that lies below a full number of thousands and is
kept as it.

## Main results

* `Standing.exists_before` : recordings add the points of what is kept of their entries.
* `Entry.sum_gain_kept` : the points of kept entries, and those of the entries.
* `Reply.acknowledges_answer` : what the answer to a recording tells, whatever fails on the way.
* `points_of_handle` : the points that a message tells, and those that it earned.
-/

namespace BukuKas

open Calendar (Date)
open Number (Binary64 fineLimit)
open Reply (experienceText recorded recordedAll)

/-! ## Points of several amounts -/

/-- Amounts in two parts earn their points together only if each part does. -/
theorem Score.of_totalPoints_append {xs ys : List Binary64} {p : Int}
    (h : totalPoints (xs ++ ys) = .ok p) :
    ∃ q r, totalPoints xs = .ok q ∧ totalPoints ys = .ok r ∧ p = q + r := by
  have hfinite := exists_totalPoints_iff.mp ⟨p, h⟩
  rw [List.forall_mem_append] at hfinite
  obtain ⟨q, hq⟩ := exists_totalPoints_iff.mpr hfinite.1
  obtain ⟨r, hr⟩ := exists_totalPoints_iff.mpr hfinite.2
  exact ⟨q, r, hq, hr, Except.ok.inj (h.symm.trans (totalPoints_append hq hr))⟩

namespace Entry

variable {e : Entry} {es : List Entry}

theorem totalPoints_eq_sum (h : ∀ e ∈ es, e.amount.isFinite = true) :
    Score.totalPoints (es.map amount) = .ok (es.map gain).sum := by
  induction es with
  | nil => rfl
  | cons e es ih =>
      obtain ⟨hfirst, hothers⟩ := List.forall_mem_cons.mp h
      rw [List.map_cons, Score.totalPoints, points_eq_gain hfirst, ih hothers]
      rfl

/-! ## What is kept of an entry -/

/-- The ledger keeps the entry in hundredths, few enough to be told apart as doubles. -/
def Fine (e : Entry) : Prop := ∃ n, Cash.ofDouble? e.amount = some (.hundredths n) ∧ n < fineLimit

/-- The ledger keeps a full number of thousands, and the amount of the entry lies below it. -/
def Lifted (e : Entry) : Prop :=
  e.amount < e.kept.amount ∧ ∃ k, Cash.ofDouble? e.amount = some (.hundredths (100000 * k))

/-- What is kept of an entry earns as many points as the entry, or it is lifted and earns one
more. -/
theorem gain_kept (h : e.Fine) : e.kept.gain = e.gain ∨ (e.kept.gain = e.gain + 1 ∧ e.Lifted) := by
  obtain ⟨n, hkept, hfine⟩ := h
  obtain ⟨p, hpoints, hsame | ⟨hmore, hless, hfull⟩⟩ := Score.points_kept hkept hfine
  · exact .inl ((gain_of_points hsame).trans (gain_of_points hpoints).symm)
  · refine .inr ⟨?_, hless, n / 100000, ?_⟩
    · rw [gain_of_points hpoints]
      exact gain_of_points hmore
    · rw [Nat.mul_div_cancel' (Nat.dvd_of_mod_eq_zero hfull)]
      exact hkept

/-- What is kept of entries earns their points, and one more for each of some that are lifted. -/
theorem sum_gain_kept (h : ∀ e ∈ es, e.Fine) : ∃ lifted : List Entry, lifted.Sublist es ∧
    (∀ e ∈ lifted, e.Lifted) ∧
      ((es.map kept).map gain).sum = (es.map gain).sum + lifted.length := by
  induction es with
  | nil => exact ⟨[], .slnil, List.forall_mem_nil _, rfl⟩
  | cons e es ih =>
      obtain ⟨hfirst, hothers⟩ := List.forall_mem_cons.mp h
      obtain ⟨lifted, hsublist, hlifted, hsum⟩ := ih hothers
      simp only [List.map_cons, List.sum_cons, hsum]
      rcases gain_kept hfirst with hsame | ⟨hmore, hlift⟩
      · exact ⟨lifted, hsublist.cons e, hlifted, by omega⟩
      · refine ⟨e :: lifted, hsublist.cons_cons e, List.forall_mem_cons.mpr ⟨hlift, hlifted⟩, ?_⟩
        rw [List.length_cons]
        omega

end Entry

/-! ## Standings -/

namespace Standing

variable {st last : Standing} {es : List Entry}

theorem amounts_recordAll (h : st.recordAll es = some last) :
    Ledger.amounts last.rows st.chat.user =
    Ledger.amounts st.rows st.chat.user ++ (es.map Entry.kept).map Entry.amount := by
  induction es generalizing st with
  | nil =>
      obtain rfl := Option.some.inj h
      exact (List.append_nil _).symm
  | cons e es ih =>
      obtain ⟨first, hfirst, hrest⟩ := Option.bind_eq_some_iff.mp h
      obtain ⟨amount, hamount, hamounts⟩ := amounts_record hfirst
      have hothers := ih hrest
      rw [user_record hfirst, hamounts, Cash.toDouble_of_ofDouble? hamount, List.append_assoc]
        at hothers
      exact hothers

/-- Recordings add the points of what is kept of their entries. -/
theorem exists_before (h : st.recordAll es = some last) {after : Int}
    (hafter : Score.totalPoints (Ledger.amounts last.rows st.chat.user) = .ok after) :
    ∃ before, Score.totalPoints (Ledger.amounts st.rows st.chat.user) = .ok before ∧
      after - before = ((es.map Entry.kept).map Entry.gain).sum := by
  rw [amounts_recordAll h] at hafter
  obtain ⟨before, added, hbefore, hadded, rfl⟩ := Score.of_totalPoints_append hafter
  refine ⟨before, hbefore, ?_⟩
  have hfinite := Score.exists_totalPoints_iff.mp ⟨added, hadded⟩
  rw [List.forall_mem_map] at hfinite
  rw [Entry.totalPoints_eq_sum hfinite] at hadded
  injection hadded with hadded
  omega

end Standing

/-! ## Answers -/

namespace Reply

/-- The reply to an intent that records: it tells the points that were earned, and the level that
points lead to. -/
inductive Acknowledges (earned points : Int) : Intent → Reply → Prop where
  | one (e : Entry) (warning : List String) :
      Acknowledges earned points (.add e) (recorded e (experienceText earned points) warning)
  | many (es : List Entry) (warning : List String) :
      Acknowledges earned points (.addMany es)
        (recordedAll es (experienceText earned points) warning)

variable {plan : FaultPlan} {roster : Roster Chat} {phone : String} {st : Standing} {o : Occasion}
variable {d after : Desk} {reply : Reply}

/-- Whatever fails on the way, the answer to a recording tells the points of the entries as they
were read, and the level of the points after it. -/
theorem acknowledges_answer {intent : Intent} (hrecords : intent.records = true)
    (hd : d.Shows roster phone st)
    (h : (answer o (some st.chat) intent).run plan phone d = (.ok reply, after)) :
    ∃ last points, st.recordAll intent.entries = some last ∧
      Score.totalPoints (Ledger.amounts last.rows st.chat.user) = .ok points ∧
      Acknowledges (intent.entries.map Entry.gain).sum points intent reply := by
  obtain ⟨last, points, finish, hrecord, hpoints, hfinish, rfl⟩ := told_answer hrecords hd h
  refine ⟨last, points, hrecord, hpoints, ?_⟩
  obtain ⟨e, rfl⟩ | ⟨es, rfl⟩ := Intent.of_records hrecords
  · obtain rfl := Option.some.inj hfinish
    exact .one e _
  · obtain rfl := Option.some.inj hfinish
    exact .many es _

end Reply

/-! ## Messages -/

namespace Message

variable {c : Circumstances} {plan : FaultPlan} {m : Message} {s : Service} {today : Date}
variable {intent : Intent}

/-- What is said in a chat and answered with a success was answered there, and the answer was
committed. -/
theorem answered_of_intends {r : Response} {after : Desk} (hintends : m.Intends c today intent)
    (hcourse : Course c plan m s (.ok r) after) (hstatus : r.status = .ok) :
    ∃ chat reply d, s.chats.get? m.phone = some chat ∧ r = .ofReply reply ∧
      (Reply.answer (c.occasion today) (some chat) intent).run plan m.phone s.desk =
        (.ok reply, d) ∧
      (d.ask plan .commit).1 = .ok () ∧ after = (d.ask plan .commit).2 := by
  cases hcourse with
  | stranger | failed => exact nomatch hstatus
  | unheard hrequest | addressless hrequest | unsearchable hrequest | unknown hrequest
  | loggedIn hrequest | notLoggedIn hrequest | loggedOut hrequest | helped hrequest =>
      exact nomatch hintends.request.symm.trans hrequest
  | @answered day text chat read reply d hrequest hchat hread hrun hcommit =>
      have hsame := Option.some.inj (Except.ok.inj (hintends.request.symm.trans hrequest))
      obtain ⟨rfl, rfl⟩ := Request.speech.inj hsame
      obtain rfl := Except.ok.inj (hintends.read.symm.trans hread)
      exact ⟨chat, reply, d, hchat, rfl, hrun, hcommit, rfl⟩

/-- What a message that records expenses and is answered with a success tells, and what it has
earned.  Whatever fails on the way, it tells the points of the amounts as they were read, and the
level of the points that the user has after it; and the points of the user have grown by those of
the kept amounts.  Where the ledger keeps the amounts in hundredths that doubles tell apart, these
are the points that are told, and one more for each of some entries: those whose amount lies below a
full number of thousands and is kept as it. -/
theorem points_of_handle {r : Response} (hintends : m.Intends c today intent)
    (hrecords : intent.records = true) (hr : (m.handle c plan s).1 = .ok r)
    (hstatus : r.status = .ok) :
    ∃ chat before after reply, s.chats.get? m.phone = some chat ∧
      Score.totalPoints (Ledger.amounts s.ledger.rows chat.user) = .ok before ∧
      Score.totalPoints (Ledger.amounts (m.handle c plan s).2.service.ledger.rows chat.user) =
        .ok after ∧
      r = .ofReply reply ∧
      reply.Acknowledges (intent.entries.map Entry.gain).sum after intent ∧
      after - before = ((intent.entries.map Entry.kept).map Entry.gain).sum ∧
      ((∀ e ∈ intent.entries, e.Fine) →
        ∃ lifted : List Entry, lifted.Sublist intent.entries ∧ (∀ e ∈ lifted, e.Lifted) ∧
          after - before = (intent.entries.map Entry.gain).sum + lifted.length) := by
  have hcourse := course_of_handle c plan m s
  rw [hr] at hcourse
  obtain ⟨chat, reply, d, hchat, rfl, hrun, hcommit, hlast⟩ :=
    answered_of_intends hintends hcourse hstatus
  obtain ⟨last, after, hrecord, hafter, htold⟩ :=
    Reply.acknowledges_answer hrecords (Service.shows_desk hchat) hrun
  obtain ⟨other, hother, hservice⟩ := service_of_answered hchat hrun hcommit
  rw [Standing.after_of_records hrecords, hrecord] at hother
  obtain rfl := Option.some.inj hother
  obtain ⟨before, hbefore, hgrown⟩ := Standing.exists_before hrecord hafter
  refine ⟨chat, before, after, reply, hchat, hbefore, ?_, rfl, htold, hgrown, fun hfine => ?_⟩
  · rw [hlast, hservice]
    exact hafter
  · rw [hgrown]
    exact Entry.sum_gain_kept hfine

/-- A helmet, and a motorcycle whose price is written in millions: the product of the doubles lies
just below four million and a hundred thousand, which is what is kept. -/
theorem points_of_handle_of_motorcycle :
    let chat : Chat := { user := 1, email := "budi@gmail.com", name := "budi" }
    let s : Service := { chats := Roster.empty.set "62" chat }
    let c : Circumstances := { settings := {}, now := ⟨1792378800⟩ }
    let m : Message := { sender := "62@c.us", text := some "helm 350k, motor 4.1jt" }
    let today : Date := ⟨2026, 10, 19, by decide⟩
    let es : List Entry := [⟨"Helm", 350000, "Lainnya", today⟩,
      ⟨"Motor", .ofRatio 41 10 * 1000000, "Transport", today⟩]
    m.Intends c today (.addMany es) ∧ (∀ e ∈ es, e.Fine) ∧ es.map Entry.gain = [350, 4099] ∧
      ∃ r, (m.handle c .none s).1 = .ok r ∧ r.status = .ok ∧
        ∃ chat before after reply, s.chats.get? m.phone = some chat ∧
          Score.totalPoints (Ledger.amounts s.ledger.rows chat.user) = .ok before ∧
          Score.totalPoints (Ledger.amounts (m.handle c .none s).2.service.ledger.rows chat.user) =
            .ok after ∧
          r = .ofReply reply ∧
          reply.Acknowledges (es.map Entry.gain).sum after (.addMany es) ∧
          after - before = ((es.map Entry.kept).map Entry.gain).sum ∧
          ((∀ e ∈ es, e.Fine) →
            ∃ lifted : List Entry, lifted.Sublist es ∧ (∀ e ∈ lifted, e.Lifted) ∧
              after - before = (es.map Entry.gain).sum + lifted.length) := by
  intro chat s c m today es
  have hread : Command.classify m.trimmed today = .ok (.addMany es) := by decide +kernel
  have hintends : m.Intends c today (.addMany es) :=
    intends_of_list (by decide +kernel) (by decide +kernel) hread (by decide +kernel)
  have hfine : ∀ e ∈ es, ∃ n ∈ [35000000, 410000000],
      Cash.ofDouble? e.amount = some (.hundredths n) ∧ n < fineLimit := by decide +kernel
  have hgains : es.map Entry.gain = [350, 4099] := by decide +kernel
  have hstatus : (m.handle c .none s).1.toOption.map Response.status = some .ok := by decide +kernel
  clear_value es
  refine ⟨hintends, fun e he => ?_, hgains, ?_⟩
  · obtain ⟨n, -, hn⟩ := hfine e he
    exact ⟨n, hn⟩
  · cases hr : (m.handle c .none s).1 with
    | error fault =>
        rw [hr] at hstatus
        exact nomatch hstatus
    | ok r =>
        rw [hr] at hstatus
        have hok := Option.some.inj hstatus
        exact ⟨r, rfl, hok, points_of_handle hintends rfl hr hok⟩

/-- The motorcycle alone: the reply tells that it earned 4099 points, and the user has 4100 points
more than before. -/
theorem told_less_than_earned :
    let chat : Chat := { user := 1, email := "budi@gmail.com", name := "budi" }
    let s : Service := { chats := Roster.empty.set "62" chat }
    let c : Circumstances := { settings := {}, now := ⟨1792378800⟩ }
    let m : Message := { sender := "62@c.us", text := some "motor 4.1jt" }
    let total (s : Service) := Score.totalPoints (Ledger.amounts s.ledger.rows chat.user)
    let motorcycle : Entry :=
      ⟨"Motor", .ofRatio 41 10 * 1000000, "Transport", ⟨2026, 10, 19, by decide⟩⟩
    (m.handle c .none s).1 =
        .ok (.ofReply (recorded motorcycle (experienceText 4099 4100) [])) ∧
      total s = .ok 0 ∧ total (m.handle c .none s).2.service = .ok 4100 := by
  decide +kernel

end Message

end BukuKas
