import BukuKas.Proofs.Undo.Reference

/-!
# Taking back is exact

An undo takes back one row, and it is the row that its phone recorded last: whatever other phones do
in between, also those of the same user, whatever fails, and however often the phone logs in again.
When that row is gone already, nothing is removed; and after an undo there is nothing to take back
until the phone has recorded again.

## Main results

* `undo_exact` : what an undo of a phone does, at any moment of a history that begins without chats.
-/

namespace BukuKas

namespace Standing

variable {row : Row} {st : Standing}

/-- A remembered row stands once, or not at all. -/
theorem Traces.filter_eq (h : st.Traces row) :
    (st.rows.filter fun r => r.id == row.id) = [] ∨
    (st.rows.filter fun r => r.id == row.id) = [row] := by
  rcases List.sublist_cons_iff.mp h.sole with hnil | ⟨rest, hrow, hrest⟩
  · exact .inl (List.sublist_nil.mp hnil)
  · exact .inr (by rw [hrow, List.sublist_nil.mp hrest])

theorem Traces.eq_of_id (h : st.Traces row) {found : Row} (hfound : found ∈ st.rows)
    (hid : found.id = row.id) : found = row := by
  have hfilter : found ∈ st.rows.filter fun r => r.id == row.id :=
    List.mem_filter.mpr ⟨hfound, by simp [hid]⟩
  exact List.mem_singleton.mp (h.sole.subset hfilter)

/-- A remembered row that is still there is the one that is taken back. -/
theorem takeBack_of_mem (h : st.Traces row) (hmem : row ∈ st.rows) :
    ∃ front back, st.rows = front ++ row :: back ∧ st.takeBack.rows = front ++ back := by
  have hlast : st.chat.last = some row.id := by
    rcases h.last with hlast | ⟨-, hgone⟩
    · exact hlast
    · exact absurd hmem hgone
  have hfilter : (st.rows.filter fun r => r.id == row.id) = [row] := by
    have hin : row ∈ st.rows.filter fun r => r.id == row.id := List.mem_filter.mpr ⟨hmem, by simp⟩
    rcases h.filter_eq with hnil | hone
    · rw [hnil] at hin
      exact nomatch hin
    · exact hone
  obtain ⟨front, back, hrows, hfront, -, hback⟩ := List.filter_eq_cons_iff.mp hfilter
  refine ⟨front, back, hrows, ?_⟩
  have hkeep : ∀ part : List Row, (∀ r ∈ part, r.id ≠ row.id) →
      Write.apply part (.delete st.chat.user row.id) = part := by
    intro part hpart
    refine List.filter_eq_self.mpr fun r hr => ?_
    simp [hpart r hr]
  have hfront' : ∀ r ∈ front, r.id ≠ row.id := fun r hr => by simpa using hfront r hr
  have hback' : ∀ r ∈ back, r.id ≠ row.id := fun r hr => by
    simpa using List.filter_eq_nil_iff.mp hback r hr
  have htake : st.takeBack.rows = Write.apply st.rows (.delete st.chat.user row.id) := by
    simp only [takeBack, hlast]
    rfl
  rw [htake, hrows]
  show (front ++ row :: back).filter _ = _
  rw [List.filter_append, List.filter_cons_of_neg (by simp [h.user])]
  exact congr (congrArg _ (hkeep front hfront')) (hkeep back hback')

/-- Taking back a remembered row that is gone removes nothing. -/
theorem takeBack_of_not_mem (h : st.Traces row) (hgone : row ∉ st.rows) :
    st.takeBack.rows = st.rows := by
  unfold takeBack
  rcases h.last with hlast | ⟨hlast, -⟩
  · rw [hlast]
    refine List.filter_eq_self.mpr fun r hr => ?_
    have hne : r.id ≠ row.id := fun hid => hgone (h.eq_of_id hr hid ▸ hr)
    simp [hne]
  · rw [hlast]

/-- Taking back removes nothing when nothing is remembered. -/
theorem takeBack_of_none (h : st.chat.last = none) : st.takeBack = st := by
  simp [takeBack, h]

end Standing

namespace Message

variable {c : Circumstances} {plan : FaultPlan} {m : Message} {s : Service}

/-- The word that a recording was taken back is given for an undo that found its row, and for
nothing else. -/
theorem undo_of_takenBack {r : Response} {after : Desk} (hcourse : Course c plan m s (.ok r) after)
    (hreply : r.reply = some Reply.takenBack) :
    ∃ chat id, s.chats.get? m.phone = some chat ∧
      after.service = s.settled m.phone (s.standing chat).takeBack ∧ chat.last = some id ∧
      s.ledger.rows.any (fun row => row.id == id && row.user == chat.user) = true := by
  have hother {text : String} (htext : r.reply = some text) (h : (Reply.ofText text).Ordinary) :
      False := h.text_ne_takenBack (htext.symm.trans hreply)
  cases hcourse with
  | unheard | stranger => exact nomatch hreply
  | addressless =>
      exact (hother rfl
        (Reply.ordinary_ofText (c := '❌') (by simp [Account.usage]) (by decide))).elim
  | unsearchable =>
      refine (hother rfl (Reply.ordinary_ofText (c := '❌') ?_ (by decide))).elim
      simp [Account.lookupFailure]
  | unknown hrequest email =>
      refine (hother rfl (Reply.ordinary_ofText (c := '❌') ?_ (by decide))).elim
      simp [Account.unknownAddress]
  | loggedIn =>
      exact (hother rfl (Reply.ordinary_joinLines (c := '✅') rfl (by simp) (by decide))).elim
  | notLoggedIn => exact (hother rfl (Reply.ordinary_ofText (c := 'ℹ') (by simp) (by decide))).elim
  | loggedOut => exact (hother rfl (Reply.ordinary_ofText (c := '👋') (by simp) (by decide))).elim
  | helped =>
      exact (hother rfl (Reply.ordinary_joinLines (c := '📱') rfl (by simp) (by decide))).elim
  | failed =>
      exact (hother rfl
        (Reply.ordinary_ofText (c := '❌') (by simp [Reply.failure]) (by decide))).elim
  | @answered today text chat intent reply d hrequest hchat hread hrun hcommit =>
      have htext : reply.text = some Reply.takenBack := by
        cases hsilent : reply.text with
        | none => simp [Response.ofReply, hsilent, Response.ignored] at hreply
        | some spoken => simpa [Response.ofReply, hsilent] using hreply
      have hundo : intent = .undo :=
        (Work.fits_of_run (Reply.keeps_answer _ chat intent) hrun).2 htext
      subst hundo
      have hshows : s.desk.Shows s.chats m.phone (s.standing chat) :=
        ⟨rfl, rfl, (Roster.set_of_get? hchat).symm⟩
      obtain ⟨-, hword⟩ := Reply.shows_undo hshows hrun
      obtain ⟨id, hlast, hany⟩ := hword.mp htext
      obtain ⟨st, hafter, hservice⟩ := service_of_answered hchat hrun hcommit
      injection hafter with hafter
      exact ⟨chat, id, hchat, by rw [hservice, hafter], hlast, hany⟩

/-- An undo that is met with a success takes back. -/
theorem undo_of_ok {r : Response} {after : Desk} (hcourse : Course c plan m s (.ok r) after)
    (hok : r.status = .ok) (hintent : m.intent? c = some .undo) :
    ∃ chat, s.chats.get? m.phone = some chat ∧
      after.service = s.settled m.phone (s.standing chat).takeBack := by
  cases hcourse with
  | unheard | stranger | unsearchable | failed => exact nomatch hok
  | addressless hrequest | unknown hrequest | loggedIn hrequest | notLoggedIn hrequest
  | loggedOut hrequest | helped hrequest =>
      simp [intent?, hrequest, Except.toOption, Request.intent?] at hintent
  | @answered today text chat intent reply d hrequest hchat hread hrun hcommit =>
      have hundo : intent = .undo := by
        simpa [intent?, hrequest, Except.toOption, Request.intent?, hread] using hintent
      subst hundo
      obtain ⟨st, hafter, hservice⟩ := service_of_answered hchat hrun hcommit
      injection hafter with hafter
      exact ⟨chat, hchat, by rw [hservice, hafter]⟩

end Message

namespace Moment

/-- A message of the phone was answered with the word that its last recording was taken back. -/
def TellsTakenBack (phone : String) (now : Moment) : Prop :=
  (∃ c plan m, now.event = .message c plan m ∧ m.phone = phone) ∧
    now.met.response?.bind Response.reply = some Reply.takenBack

/-- The event is an undo of the phone, whatever it was met with. -/
def AsksUndo (phone : String) (now : Moment) : Prop :=
  ∃ c plan m, now.event = .message c plan m ∧ m.phone = phone ∧ m.intent? c = some .undo

variable {phone : String} {row : Option Row} {e : Event} {s : Service}

theorem rows_of_tellsTakenBack (hknown : Known phone row s)
    (h : (Moment.ofEvent e s).TellsTakenBack phone) :
    ∃ kept front back, row = some kept ∧ s.ledger.rows = front ++ kept :: back ∧
      (e.happen s).2.ledger.rows = front ++ back := by
  obtain ⟨⟨c, plan, m, hevent, rfl⟩, hmet⟩ := h
  replace hevent : e = .message c plan m := hevent
  subst hevent
  have hcourse := Message.course_of_handle c plan m s
  obtain ⟨r, hresponse, hreply⟩ := Option.bind_eq_some_iff.mp hmet
  have hresult : (m.handle c plan s).1 = .ok r := by
    change (Encounter.response (m.handle c plan s).1).response? = some r at hresponse
    revert hresponse
    cases (m.handle c plan s).1 with
    | error fault => exact nofun
    | ok found => exact fun hfound => congrArg Except.ok (Option.some.inj hfound)
  rw [hresult] at hcourse
  obtain ⟨chat, id, hchat, hservice, hlast, hany⟩ := Message.undo_of_takenBack hcourse hreply
  obtain ⟨found, hfound, hmatch⟩ := List.any_eq_true.mp hany
  cases row with
  | none => exact nomatch (hknown.nothing chat hchat rfl).symm.trans hlast
  | some kept =>
      have htraces := hknown.something chat kept hchat rfl
      have hid : id = kept.id := by
        rcases htraces.last with hnumber | ⟨hnone, -⟩
        · exact Option.some.inj (hlast.symm.trans hnumber)
        · exact nomatch hnone.symm.trans hlast
      have hmem : kept ∈ s.ledger.rows := by
        have hnumber : found.id = id := by
          simpa using (Bool.and_eq_true_iff.mp hmatch).1
        exact htraces.eq_of_id hfound (hnumber.trans hid) ▸ hfound
      obtain ⟨front, back, hbefore, htaken⟩ := Standing.takeBack_of_mem htraces hmem
      refine ⟨kept, front, back, rfl, hbefore, ?_⟩
      show (m.handle c plan s).2.service.ledger.rows = _
      rw [hservice]
      exact htaken

/-- What an undo of the phone that was met with a success did. -/
theorem settled_of_intent? (h : (Moment.ofEvent e s).intent? phone = some .undo) :
    ∃ chat, s.chats.get? phone = some chat ∧
      (e.happen s).2 = s.settled phone (s.standing chat).takeBack := by
  obtain ⟨c, plan, m, r, rfl, rfl, hr, hstatus, hintent⟩ := message_of_intent? h
  have hcourse := Message.course_of_handle c plan m s
  rw [hr] at hcourse
  exact Message.undo_of_ok hcourse hstatus hintent

/-- An undo that is not met with a success changes no row. -/
theorem rows_of_asksUndo (h : (Moment.ofEvent e s).AsksUndo phone)
    (hnot : (Moment.ofEvent e s).intent? phone ≠ some .undo) :
    (e.happen s).2.ledger.rows = s.ledger.rows := by
  obtain ⟨c, plan, m, hevent, rfl, hintent⟩ := h
  replace hevent : e = .message c plan m := hevent
  subst hevent
  have hstatus : ∀ r, (m.handle c plan s).1 = .ok r → r.status ≠ .ok := by
    intro r hr hok
    exact hnot (intent?_of_handle hr hok hintent)
  obtain ⟨n, -, hservice⟩ :=
    Message.onlyCounted_of_course (Message.course_of_handle c plan m s) hstatus
  show (m.handle c plan s).2.service.ledger.rows = s.ledger.rows
  rw [hservice]

end Moment

/-! ## The reference after an undo -/

section Reference

variable {phone : String}

theorem nextReference_undo {now : Moment} (h : now.intent? phone = some .undo) (row : Option Row) :
    nextReference phone row now = none := by
  obtain ⟨request, hrequest, hintent⟩ := Option.bind_eq_some_iff.mp h
  cases request with
  | speech today text =>
      simp only [nextReference, hrequest, hintent]
      rfl
  | login | logout | help => simp [Request.intent?] at hintent

/-- Nothing can be taken back as long as nothing is recorded. -/
theorem nextReference_of_not_records {now : Moment}
    (h : ∀ intent, now.intent? phone = some intent → intent.records = false) :
    nextReference phone none now = none := by
  unfold nextReference
  cases hrequest : now.request? phone with
  | none => rfl
  | some request =>
      cases request with
      | login text =>
          dsimp only
          split <;> rfl
      | logout => rfl
      | help => rfl
      | speech today text =>
          dsimp only
          cases hintent : (Request.speech today text).intent? with
          | none => rfl
          | some intent =>
              have hrecords :=
                h intent (by rw [Moment.intent?, hrequest, Option.bind_some, hintent])
              simp [Intent.reference, hrecords]

theorem reference_of_undo {first between : List Moment} {earlier : Moment}
    (hundo : earlier.intent? phone = some .undo)
    (hbetween : ∀ now ∈ between, ∀ intent, now.intent? phone = some intent →
      intent.records = false) :
    reference phone (first ++ earlier :: between) = none := by
  unfold reference
  rw [List.foldl_append, List.foldl_cons, nextReference_undo hundo]
  induction between with
  | nil => rfl
  | cons now more ih =>
      rw [List.foldl_cons, nextReference_of_not_records (hbetween now (by simp))]
      exact ih fun later hlater => hbetween later (by simp [hlater])

end Reference

/-! ## What an undo does -/

/-- When a recording is reported as taken back, exactly one row is gone, and it is the one that the
phone recorded last.  An undo whose row is gone already removes nothing.  After an undo the chat
remembers nothing, and until the phone has recorded again, no undo of it removes a row. -/
theorem undo_exact {s : Service} {es : List Event} {past future : List Moment} {now : Moment}
    (hchats : s.chats = Roster.empty) (hrows : ∀ r ∈ s.ledger.rows, r.id < s.ledger.nextId)
    (h : History.moments es s = past ++ now :: future) (phone : String) :
    (now.TellsTakenBack phone → ∃ row front back, reference phone past = some row ∧
      now.before.ledger.rows = front ++ row :: back ∧ now.after.ledger.rows = front ++ back) ∧
    (now.intent? phone = some .undo →
      ((∀ row, reference phone past = some row → row ∉ now.before.ledger.rows) →
        now.after.ledger.rows = now.before.ledger.rows) ∧
      ∃ chat, now.after.chats.get? phone = some chat ∧ chat.last = none) ∧
    (now.AsksUndo phone → ∀ first earlier between, past = first ++ earlier :: between →
      earlier.intent? phone = some .undo →
      (∀ later ∈ between, ∀ intent, later.intent? phone = some intent → intent.records = false) →
      now.after.ledger.rows = now.before.ledger.rows) := by
  obtain ⟨e, before, rfl, hknown⟩ := known_of_moments hchats hrows h phone
  have hgone : (Moment.ofEvent e before).intent? phone = some .undo →
      (∀ row, reference phone past = some row → row ∉ before.ledger.rows) →
      (e.happen before).2.ledger.rows = before.ledger.rows := by
    intro hundo hmissing
    obtain ⟨chat, hchat, hafter⟩ := Moment.settled_of_intent? hundo
    have hrows : (e.happen before).2.ledger.rows = (before.standing chat).takeBack.rows := by
      rw [hafter]
      rfl
    rw [hrows]
    cases hreference : reference phone past with
    | none =>
        have hnone : (before.standing chat).chat.last = none := hknown.nothing chat hchat hreference
        rw [Standing.takeBack_of_none hnone]
        rfl
    | some row =>
        have htraces := hknown.something chat row hchat hreference
        exact Standing.takeBack_of_not_mem htraces (hmissing row hreference)
  refine ⟨Moment.rows_of_tellsTakenBack hknown, fun hundo => ⟨hgone hundo, ?_⟩, ?_⟩
  · obtain ⟨chat, hchat, hafter⟩ := Moment.settled_of_intent? hundo
    refine ⟨(before.standing chat).takeBack.chat, ?_, Standing.last_takeBack _⟩
    show (e.happen before).2.chats.get? phone = _
    rw [hafter]
    exact Roster.get?_set_self ..
  · intro hasks first earlier between hpast hearlier hbetween
    by_cases hundo : (Moment.ofEvent e before).intent? phone = some .undo
    · refine hgone hundo fun row hrow => ?_
      rw [hpast, reference_of_undo hearlier hbetween] at hrow
      exact nomatch hrow
    · exact Moment.rows_of_asksUndo hasks hundo

/-- Two phones of one user record in turn.  The undo of the first phone takes back the second row of
its list, although the other phone has recorded since. -/
theorem undo_exact_of_two_phones :
    let s : Service := { ledger := { users := [⟨1, "budi@gmail.com", none⟩] } }
    let sends (sender text : String) : Event :=
      .message { settings := {}, now := ⟨1792378800⟩ } .none { sender := sender, text := some text }
    let es := [sends "62@c.us" "!login budi@gmail.com", sends "63@c.us" "!login budi@gmail.com",
      sends "62@c.us" "kopi 20k, roti 15k", sends "63@c.us" "teh 5k"]
    let now := Moment.ofEvent (sends "62@c.us" "!undo") (History.after es s)
    now.before.ledger.rows.map Row.id = [1, 2, 3] ∧ now.after.ledger.rows.map Row.id = [1, 3] ∧
      ∃ row front back, reference "62" (History.moments es s) = some row ∧
        now.before.ledger.rows = front ++ row :: back ∧ now.after.ledger.rows = front ++ back := by
  intro s sends es now
  have hbefore : now.before.ledger.rows.map Row.id = [1, 2, 3] := by decide +kernel
  have hafter : now.after.ledger.rows.map Row.id = [1, 3] := by decide +kernel
  have htells : now.TellsTakenBack "62" :=
    ⟨⟨_, _, _, rfl, by decide +kernel⟩, by decide +kernel⟩
  refine ⟨hbefore, hafter, ?_⟩
  have hmoments : History.moments (es ++ [sends "62@c.us" "!undo"]) s =
      History.moments es s ++ now :: [] := rfl
  exact (undo_exact rfl (by simp [s]) hmoments "62").1 htells

end BukuKas
