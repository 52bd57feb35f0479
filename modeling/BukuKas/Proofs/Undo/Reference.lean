import BukuKas.Proofs.Job
import BukuKas.Proofs.Message.Effect
import BukuKas.Proofs.Moment

/-!
# The recording that can be taken back

Which row an undo of a phone may take back can be told from the past alone: the row that the phone
recorded last, unless it has taken a recording back since, logged out, or logged in as another user.
`reference` says so by going through the moments, without looking at what any chat remembers.

What the chat remembers agrees with it: the number is that of the row, or it is gone because the
row is.  `Known` states this of a service; every event preserves it, whichever phone it comes from,
because numbers are never given twice.

## Main results

* `known_happen` : one event preserves the agreement.
* `known_of_moments` : the agreement holds at every moment of a history that begins without chats.
-/

namespace BukuKas

open Calendar (Date)

/-! ## The reference -/

/-- The row that can be taken back after an intent, given the row that the intent recorded last and
the one that could be taken back before. -/
def Intent.reference (intent : Intent) (newest row : Option Row) : Option Row :=
  if intent = .undo then none else if intent.records then newest.or row else row

theorem Intent.reference_of_records {intent : Intent} (h : intent.records = true)
    (newest row : Option Row) : intent.reference newest row = newest.or row := by
  cases intent <;> first | rfl | exact nomatch h

theorem Intent.reference_of_other {intent : Intent} (hrecords : intent.records = false)
    (hundo : intent ≠ .undo) (newest row : Option Row) : intent.reference newest row = row := by
  simp [reference, hrecords, hundo]

/-- The row that can be taken back after a moment, given the one before it. -/
def nextReference (phone : String) (row : Option Row) (now : Moment) : Option Row :=
  match now.request? phone with
  | some (.login _) =>
      if (now.before.chats.get? phone).map Chat.user = (now.after.chats.get? phone).map Chat.user
        then
        row
      else none
  | some .logout => none
  | some request =>
      match request.intent? with
      | some intent => intent.reference now.newest? row
      | none => row
  | none => row

/-- The row that a phone recorded last and has not taken back, by the moments of the past. -/
def reference (phone : String) (past : List Moment) : Option Row :=
  past.foldl (nextReference phone) none

theorem reference_append (phone : String) (past : List Moment) (now : Moment) :
    reference phone (past ++ [now]) = nextReference phone (reference phone past) now :=
  List.foldl_append

/-! ## Numbers of rows in a standing -/

namespace Standing

/-- The rows with a number that was given before can only become fewer. -/
theorem sublist_after {st last : Standing} {today : Date} {intent : Intent}
    (h : st.after today intent = some last) {k : Int} (hk : k < st.next) :
    (last.rows.filter fun r => r.id == k).Sublist (st.rows.filter fun r => r.id == k) := by
  -- the counter must be carried along: a row that is recorded has a number beyond the given one
  refine (after_induction (P := fun other => st.next ≤ other.next ∧
    (other.rows.filter fun r => r.id == k).Sublist (st.rows.filter fun r => r.id == k)) ?_ ?_ ?_ h
    ⟨Int.le_refl _, List.Sublist.refl _⟩).2
  · intro first next e hrecord hfirst
    obtain ⟨amount, rfl⟩ := of_record hrecord
    obtain ⟨hnext, hrows⟩ := hfirst
    refine ⟨Int.le_trans hnext (by show first.next ≤ first.next + 1; omega), ?_⟩
    have hne : (first.next == k) = false := by
      rw [beq_eq_false_iff_ne]
      omega
    rw [List.filter_append]
    simpa [Row.ofEntry, hne] using hrows
  · intro first id hfirst
    exact ⟨hfirst.1, (List.filter_sublist.filter _).trans hfirst.2⟩
  · intro first chat _ _ hfirst
    exact hfirst

/-- Recordings put rows with new numbers behind the others, and the chat remembers the last one. -/
theorem recordAll_rows {st last : Standing} {es : List Entry} (h : st.recordAll es = some last) :
    last = st ∨ ∃ more row, last.rows = st.rows ++ (more ++ [row]) ∧
      (∀ r ∈ more, st.next ≤ r.id ∧ r.id < row.id) ∧ st.next ≤ row.id ∧ row.id < last.next ∧
      row.user = st.chat.user ∧ last.chat.user = st.chat.user ∧ last.chat.last = some row.id := by
  induction es generalizing st with
  | nil =>
      injection h with h
      exact .inl h.symm
  | cons e es ih =>
      obtain ⟨first, hfirst, hrest⟩ := Option.bind_eq_some_iff.mp h
      obtain ⟨amount, rfl⟩ := of_record hfirst
      rcases ih hrest with rfl | ⟨more, row, hrows, hmore, hrow, hlast, huser, hchat, hnumber⟩
      · refine .inr ⟨[], Row.ofEntry st.next st.chat.user amount e, rfl, by simp, ?_, ?_,
          rfl, rfl, rfl⟩
        · exact Int.le_refl st.next
        · show st.next < st.next + 1
          omega
      · refine .inr ⟨Row.ofEntry st.next st.chat.user amount e :: more, row, ?_, ?_,
          ?_, hlast, huser, hchat, hnumber⟩
        · simpa using hrows
        · intro r hr
          dsimp only at hmore hrow
          rcases List.mem_cons.mp hr with rfl | hr
          · show st.next ≤ st.next ∧ st.next < row.id
            omega
          · have hbounds := hmore r hr
            omega
        · dsimp only at hrow
          omega

/-- An intent that records does so entry by entry. -/
theorem recordAll_of_after {st last : Standing} {today : Date} {intent : Intent}
    (hrecords : intent.records = true) (h : st.after today intent = some last) :
    ∃ es, st.recordAll es = some last := by
  cases intent with
  | add e =>
      refine ⟨[e], ?_⟩
      show (st.record e).bind _ = some last
      rw [show st.record e = some last from h]
      rfl
  | addMany es => exact ⟨es, h⟩
  | _ => exact nomatch hrecords

/-! ## A row that a chat remembers -/

/-- The chat of a standing remembers a row: by its number, or not at all because the row is gone. -/
structure Traces (row : Row) (st : Standing) : Prop where
  /-- The row is one of the user. -/
  user : row.user = st.chat.user
  /-- Its number was given before. -/
  old : row.id < st.next
  /-- No other row has its number. -/
  sole : (st.rows.filter fun r => r.id == row.id).Sublist [row]
  /-- The chat remembers the number, unless the row is gone. -/
  last : st.chat.last = some row.id ∨ st.chat.last = none ∧ row ∉ st.rows

/-- A row stays remembered while the rows with its number can only become fewer. -/
theorem Traces.of_sublist {row : Row} {st other : Standing} (h : st.Traces row)
    (hchat : other.chat = st.chat) (hnext : st.next ≤ other.next)
    (hrows : (other.rows.filter fun r => r.id == row.id).Sublist
      (st.rows.filter fun r => r.id == row.id)) : other.Traces row where
  user := by rw [hchat, h.user]
  old := Int.lt_of_lt_of_le h.old hnext
  sole := hrows.trans h.sole
  last := by
    rw [hchat]
    refine h.last.imp_right fun hgone => ⟨hgone.1, fun hmem => hgone.2 ?_⟩
    have hfilter : row ∈ other.rows.filter fun r => r.id == row.id :=
      List.mem_filter.mpr ⟨hmem, by simp⟩
    exact (List.mem_filter.mp (hrows.subset hfilter)).1

/-- A row that was recorded last is remembered. -/
theorem traces_of_recordAll {st last : Standing} {es : List Entry} (hst : st.Below Row.id)
    (h : st.recordAll es = some last) :
    last = st ∨ ∃ row, (last.rows.filter fun r => r ∉ st.rows).getLast? = some row ∧
      last.Traces row := by
  rcases recordAll_rows h with hsame | ⟨more, row, hrows, hmore, hrow, hlast, huser, hchat, hnumber⟩
  · exact .inl hsame
  · refine .inr ⟨row, ?_, ?_⟩
    · have hold : (st.rows.filter fun r => r ∉ st.rows) = [] := by
        rw [List.filter_eq_nil_iff]
        intro r hr
        simp [hr]
      have hnew : ((more ++ [row]).filter fun r => r ∉ st.rows) = more ++ [row] := by
        rw [List.filter_eq_self]
        intro r hr
        have hid : st.next ≤ r.id := by
          rcases List.mem_append.mp hr with hr | hr
          · exact (hmore r hr).1
          · rw [List.mem_singleton.mp hr]
            exact hrow
        have hnot : r ∉ st.rows := fun hmem => by
          have hlt := hst r hmem
          omega
        simp [hnot]
      rw [hrows, List.filter_append, hold, hnew, List.nil_append, List.getLast?_concat]
    · refine ⟨huser.trans hchat.symm, hlast, ?_, .inl hnumber⟩
      have hothers : ((st.rows ++ more).filter fun r => r.id == row.id) = [] := by
        rw [List.filter_eq_nil_iff]
        intro r hr heq
        have hid : r.id = row.id := by simpa using heq
        rcases List.mem_append.mp hr with hr | hr
        · have hlt := hst r hr
          omega
        · have hlt := (hmore r hr).2
          omega
      rw [hrows, ← List.append_assoc, List.filter_append, hothers]
      simp

/-- A row whose number the chat remembers is forgotten when it is removed from the list. -/
theorem Traces.removeListed {row : Row} {st : Standing} (h : st.Traces row) (today : Date)
    (index : Int) : (st.removeListed today index).Traces row := by
  unfold Standing.removeListed
  cases Reply.nth? (Ledger.listDay st.rows st.chat.user today) index with
  | none => exact h
  | some removed =>
      dsimp only
      by_cases hlast : st.chat.last = some removed.id
      · rw [if_pos hlast]
        have hid : row.id = removed.id := by
          rcases h.last with hnumber | ⟨hnone, -⟩
          · exact Option.some.inj (hnumber.symm.trans hlast)
          · exact nomatch hnone.symm.trans hlast
        have hgone : row ∉ (st.remove removed.id).rows := by
          intro hmem
          exact (Write.mem_apply_delete.mp hmem).2 ⟨hid, h.user⟩
        exact ⟨h.user, h.old, (List.filter_sublist.filter _).trans h.sole, .inr ⟨rfl, hgone⟩⟩
      · rw [if_neg hlast]
        exact h.of_sublist rfl (Int.le_refl _) (List.filter_sublist.filter _)

theorem last_removeListed {st : Standing} (h : st.chat.last = none) (today : Date) (index : Int) :
    (st.removeListed today index).chat.last = none := by
  unfold Standing.removeListed
  cases Reply.nth? (Ledger.listDay st.rows st.chat.user today) index with
  | none => exact h
  | some removed => simp [h]

/-- Intents that neither record nor take back leave what is remembered. -/
theorem traces_after {st last : Standing} {today : Date} {intent : Intent}
    (hrecords : intent.records = false) (hundo : intent ≠ .undo)
    (h : st.after today intent = some last) :
    (∀ row, st.Traces row → last.Traces row) ∧ (st.chat.last = none → last.chat.last = none) := by
  cases hasks : intent.asksOnly with
  | true =>
      rw [after_of_asksOnly hasks] at h
      injection h with h
      subst h
      exact ⟨fun row hrow => hrow, fun hnone => hnone⟩
  | false =>
      cases intent with
      | add _ | addMany _ => exact nomatch hrecords
      | undo => exact absurd rfl hundo
      | delete index =>
          injection h with h
          subst h
          exact ⟨fun row hrow => hrow.removeListed today index,
            fun hnone => last_removeListed hnone today index⟩
      | addReminder name day =>
          injection h with h
          subst h
          exact ⟨fun row hrow => ⟨hrow.user, hrow.old, hrow.sole, hrow.last⟩, fun hnone => hnone⟩
      | deleteReminder index =>
          injection h with h
          subst h
          unfold unremind
          cases Reply.nth? st.chat.reminders index with
          | none => exact ⟨fun row hrow => hrow, fun hnone => hnone⟩
          | some reminder =>
              exact ⟨fun row hrow => ⟨hrow.user, hrow.old, hrow.sole, hrow.last⟩,
                fun hnone => hnone⟩
      | setAlert enabled =>
          injection h with h
          subst h
          exact ⟨fun row hrow => ⟨hrow.user, hrow.old, hrow.sole, hrow.last⟩, fun hnone => hnone⟩
      | _ => exact nomatch hasks

/-- After a taking back the chat remembers nothing. -/
theorem last_takeBack (st : Standing) : st.takeBack.chat.last = none := by
  unfold takeBack
  cases hlast : st.chat.last with
  | none => exact hlast
  | some id => rfl

end Standing

/-! ## What is known of a phone -/

/-- What the chat of a phone remembers agrees with the row that can be taken back. -/
structure Known (phone : String) (row : Option Row) (s : Service) : Prop where
  /-- All rows were numbered before the next one. -/
  fresh : ∀ r ∈ s.ledger.rows, r.id < s.ledger.nextId
  /-- Without a chat nothing can be taken back. -/
  chatless : s.chats.get? phone = none → row = none
  /-- When nothing can be taken back, the chat remembers nothing. -/
  nothing : ∀ chat, s.chats.get? phone = some chat → row = none → chat.last = none
  /-- The chat remembers what can be taken back. -/
  something : ∀ chat kept, s.chats.get? phone = some chat → row = some kept →
    (s.standing chat).Traces kept

namespace Known

variable {phone : String} {row : Option Row} {s other : Service}

/-- What is known of a phone stays known while others are served. -/
theorem of_sublist (h : Known phone row s) (hchat : other.chats.get? phone = s.chats.get? phone)
    (hfresh : ∀ r ∈ other.ledger.rows, r.id < other.ledger.nextId)
    (hnext : s.ledger.nextId ≤ other.ledger.nextId)
    (hrows : ∀ k, k < s.ledger.nextId → (other.ledger.rows.filter fun r => r.id == k).Sublist
      (s.ledger.rows.filter fun r => r.id == k)) : Known phone row other where
  fresh := hfresh
  chatless hnone := h.chatless (hchat ▸ hnone)
  nothing chat hsome hrow := h.nothing chat (hchat ▸ hsome) hrow
  something chat kept hsome hrow := by
    have htraces := h.something chat kept (hchat ▸ hsome) hrow
    exact htraces.of_sublist rfl hnext (hrows kept.id htraces.old)

theorem of_rows (h : Known phone row s) (hchat : other.chats.get? phone = s.chats.get? phone)
    (hnext : s.ledger.nextId ≤ other.ledger.nextId) (hrows : other.ledger.rows = s.ledger.rows) :
    Known phone row other := by
  refine h.of_sublist hchat (fun r hr => ?_) hnext fun k _ => ?_
  · rw [hrows] at hr
    exact Int.lt_of_lt_of_le (h.fresh r hr) hnext
  · have hsame := congrArg (List.filter fun r => r.id == k) hrows
    exact hsame ▸ List.Sublist.refl _

theorem of_onlyCounted (h : Known phone row s) (hcounted : s.OnlyCounted other) :
    Known phone row other := by
  obtain ⟨n, hn, rfl⟩ := hcounted
  exact h.of_rows rfl hn rfl

/-- Of a phone without a chat nothing can be taken back. -/
theorem of_chatless (hfresh : ∀ r ∈ s.ledger.rows, r.id < s.ledger.nextId)
    (hnone : s.chats.get? phone = none) : Known phone none s where
  fresh := hfresh
  chatless _ := rfl
  nothing _ hsome _ := nomatch hnone.symm.trans hsome
  something _ _ hsome _ := nomatch hnone.symm.trans hsome

/-- What is known of a phone with a chat is what its chat remembers. -/
theorem of_chat (hfresh : ∀ r ∈ s.ledger.rows, r.id < s.ledger.nextId) {chat : Chat}
    (hchat : s.chats.get? phone = some chat) (hnothing : row = none → chat.last = none)
    (hsomething : ∀ kept, row = some kept → (s.standing chat).Traces kept) :
    Known phone row s := by
  have hsame {found : Chat} (hfound : s.chats.get? phone = some found) : chat = found :=
    Option.some.inj (hchat.symm.trans hfound)
  refine ⟨hfresh, fun hnone => (nomatch hchat.symm.trans hnone), ?_, ?_⟩
  · intro found hfound hrow
    rw [← hsame hfound]
    exact hnothing hrow
  · intro found kept hfound hrow
    rw [← hsame hfound]
    exact hsomething kept hrow

/-- What is known of a phone after its own intent. -/
theorem of_after (h : Known phone row s) {chat : Chat} (hchat : s.chats.get? phone = some chat)
    {today : Date} {intent : Intent} {st : Standing}
    (hafter : (s.standing chat).after today intent = some st) :
    Known phone
      (intent.reference (st.rows.filter fun r => r ∉ s.ledger.rows).getLast? row)
      (s.settled phone st) := by
  have hget : (s.settled phone st).chats.get? phone = some st.chat :=
    Roster.get?_set_self s.chats phone st.chat
  have hstart : (s.standing chat).Below Row.id := h.fresh
  have hfresh : st.Below Row.id := Standing.below_after (fun _ _ _ _ => rfl) hafter hstart
  cases hrecords : intent.records with
  | true =>
      rw [Intent.reference_of_records hrecords]
      obtain ⟨es, hes⟩ := Standing.recordAll_of_after hrecords hafter
      rcases Standing.traces_of_recordAll hstart hes with rfl | ⟨newest, hnewest, htraces⟩
      · have hnone : ((s.standing chat).rows.filter fun r => r ∉ s.ledger.rows) = [] := by
          rw [List.filter_eq_nil_iff]
          intro r hr
          replace hr : r ∈ s.ledger.rows := hr
          simp [hr]
        rw [hnone]
        exact of_chat hfresh hget (h.nothing chat hchat) fun kept => h.something chat kept hchat
      · replace hnewest : (st.rows.filter fun r => r ∉ s.ledger.rows).getLast? = some newest :=
          hnewest
        rw [hnewest, Option.some_or]
        refine of_chat hfresh hget (fun hnone => nomatch hnone) fun kept hkept => ?_
        exact Option.some.inj hkept ▸ htraces
  | false =>
      by_cases hundo : intent = .undo
      · subst hundo
        injection hafter with hafter
        refine of_chat hfresh hget (fun _ => ?_) fun kept hkept => nomatch hkept
        rw [← hafter]
        exact Standing.last_takeBack _
      · rw [Intent.reference_of_other hrecords hundo]
        obtain ⟨hsome, hnone⟩ := Standing.traces_after hrecords hundo hafter
        exact of_chat hfresh hget (fun hrow => hnone (h.nothing chat hchat hrow)) fun kept hkept =>
          hsome kept (h.something chat kept hchat hkept)

/-- A login keeps what is known when it is one as the same user, and else forgets it. -/
theorem of_login (h : Known phone row s) (user : User) :
    Known phone
      (if (s.chats.get? phone).map Chat.user =
          some (Account.greeted user (s.chats.get? phone)).user then row else none)
      { s with chats := s.chats.set phone (Account.greeted user (s.chats.get? phone)) } := by
  have hget : (s.chats.set phone (Account.greeted user (s.chats.get? phone))).get? phone =
      some (Account.greeted user (s.chats.get? phone)) := Roster.get?_set_self ..
  rw [Account.user_greeted]
  by_cases hsame : (s.chats.get? phone).map Chat.user = some user.id
  · rw [if_pos hsame]
    obtain ⟨chat, hchat, huser⟩ := Option.map_eq_some_iff.mp hsame
    rw [hchat] at hget ⊢
    obtain ⟨-, hlast, -⟩ := Account.greeted_of_same huser
    refine of_chat h.fresh hget (fun hrow => ?_) fun kept hrow => ?_
    · rw [hlast]
      exact h.nothing chat hchat hrow
    · have htraces := h.something chat kept hchat hrow
      refine ⟨?_, htraces.old, htraces.sole, ?_⟩
      · show kept.user = (Account.greeted user (some chat)).user
        rw [Account.user_greeted, ← huser]
        exact htraces.user
      · show (Account.greeted user (some chat)).last = _ ∨
          (Account.greeted user (some chat)).last = _ ∧ _
        rw [hlast]
        exact htraces.last
  · rw [if_neg hsame]
    refine of_chat h.fresh hget (fun _ => ?_) fun kept hkept => nomatch hkept
    cases hchat : s.chats.get? phone with
    | none => rfl
    | some chat =>
        have hother : chat.user ≠ user.id := by simpa [hchat] using hsame
        rw [Account.greeted_of_other hother]
        rfl

end Known

/-! ## Every event preserves what is known -/

section Events

variable {phone : String} {row : Option Row} {s : Service}
variable {c : Circumstances} {plan : FaultPlan} {m : Message}

/-- A message of another phone leaves what is known. -/
theorem known_elsewhere (h : Known phone row s) (hphone : m.phone ≠ phone)
    {result : Except Fault Response} {after : Desk}
    (hcourse : Message.Course c plan m s result after) :
    Known phone row after.service := by
  cases hcourse with
  | unheard | undated | addressless | notLoggedIn | helped | stranger | unread => exact h
  | unsearchable hrequest email =>
      rw [Message.service_unsearchable]
      exact h
  | unknown hrequest email =>
      rw [Message.service_findUser]
      exact h
  | loggedIn hrequest email hfound =>
      rw [Message.service_loggedIn]
      exact h.of_rows (Roster.get?_set_of_ne s.chats hphone.symm _) (Int.le_refl _) rfl
  | loggedOut hrequest hchat =>
      exact h.of_rows (Roster.get?_erase_of_ne s.chats hphone.symm) (Int.le_refl _) rfl
  | answered hrequest hchat hread hrun hcommit =>
      obtain ⟨st, hafter, hservice⟩ := Message.service_of_answered hchat hrun hcommit
      rw [hservice]
      exact h.of_sublist (Roster.get?_set_of_ne s.chats hphone.symm st.chat)
        (Standing.below_after (fun _ _ _ _ => rfl) hafter h.fresh) (Standing.next_le_after hafter)
        fun k hk => Standing.sublist_after hafter hk
  | failed hrequest hchat hread hrun hgood hcounted => exact h.of_onlyCounted hcounted

/-- The moment of a message. -/
def Moment.ofMessage (c : Circumstances) (plan : FaultPlan) (m : Message) (s : Service)
    (result : Except Fault Response) (after : Service) : Moment where
  before := s
  event := .message c plan m
  met := .response result
  after := after

theorem request?_of_ok {r : Response} {request : Request} {after : Service}
    (hphone : m.phone = phone)
    (hok : r.status = .ok) (hrequest : m.request c = .ok (some request)) :
    (Moment.ofMessage c plan m s (.ok r) after).request? phone = some request := by
  simp [Moment.request?, Moment.ofMessage, hphone, hok, hrequest, Except.toOption]

/-- Without a success for the phone, nothing is asked for. -/
theorem request?_of_not_ok {result : Except Fault Response} {after : Service}
    (h : ∀ r, result = .ok r → m.phone = phone → r.status ≠ .ok) :
    (Moment.ofMessage c plan m s result after).request? phone = none := by
  cases result with
  | error fault => rfl
  | ok r =>
      have hnot : ¬(m.phone = phone ∧ r.status = .ok) := fun hboth => h r rfl hboth.1 hboth.2
      simp [Moment.request?, Moment.ofMessage, hnot]

theorem nextReference_of_none {now : Moment} (h : now.request? phone = none) :
    nextReference phone row now = row := by
  simp [nextReference, h]

/-- A message of the phone itself that is met with a success. -/
theorem known_own (h : Known m.phone row s) {r : Response} {after : Desk} (hok : r.status = .ok)
    (hcourse : Message.Course c plan m s (.ok r) after) :
    Known m.phone (nextReference m.phone row (.ofMessage c plan m s (.ok r) after.service))
      after.service := by
  have hasked {request : Request} (hrequest : m.request c = .ok (some request)) :
      (Moment.ofMessage c plan m s (.ok r) after.service).request? m.phone = some request :=
    request?_of_ok rfl hok hrequest
  cases hcourse with
  | unheard | stranger | unsearchable | failed => exact nomatch hok
  | addressless hrequest =>
      simp only [nextReference, hasked hrequest]
      simp only [Moment.ofMessage, Service.service_desk, if_true]
      exact h
  | unknown hrequest email =>
      simp only [nextReference, hasked hrequest]
      simp only [Moment.ofMessage, Message.service_findUser]
      exact h
  | loggedIn hrequest email hfound =>
      simp only [nextReference, hasked hrequest]
      simp only [Moment.ofMessage, Message.service_loggedIn, Roster.get?_set_self, Option.map_some]
      exact h.of_login _
  | notLoggedIn hrequest hchat =>
      simp only [nextReference, hasked hrequest]
      exact Known.of_chatless h.fresh hchat
  | loggedOut hrequest hchat =>
      simp only [nextReference, hasked hrequest]
      exact Known.of_chatless h.fresh (Roster.get?_erase_self s.chats m.phone)
  | helped hrequest =>
      simp only [nextReference, hasked hrequest]
      exact h
  | answered hrequest hchat hread hrun hcommit =>
      obtain ⟨st, hafter, hservice⟩ := Message.service_of_answered hchat hrun hcommit
      simp only [nextReference, hasked hrequest]
      simp only [Request.intent?, hread, Except.toOption]
      rw [hservice]
      exact h.of_after hchat hafter

/-- One event preserves what is known. -/
theorem known_happen (h : Known phone row s) (e : Event) :
    Known phone (nextReference phone row (.ofEvent e s)) (e.happen s).2 := by
  cases e with
  | job threshold plan today gateway which =>
      show Known phone row (which.run threshold plan today gateway s).2.service
      rw [Job.service_run]
      exact h
  | message c plan m =>
      have hcourse := Message.course_of_handle c plan m s
      show Known phone (nextReference phone row
        (.ofMessage c plan m s (m.handle c plan s).1 (m.handle c plan s).2.service))
        (m.handle c plan s).2.service
      generalize (m.handle c plan s).1 = result at hcourse ⊢
      generalize (m.handle c plan s).2 = after at hcourse ⊢
      by_cases hphone : m.phone = phone
      · by_cases hok : ∃ r, result = .ok r ∧ r.status = .ok
        · obtain ⟨r, rfl, hr⟩ := hok
          subst hphone
          exact known_own h hr hcourse
        · have hnot : ∀ r, result = .ok r → r.status ≠ .ok := fun r hr hstatus =>
            hok ⟨r, hr, hstatus⟩
          rw [nextReference_of_none (request?_of_not_ok fun r hr _ => hnot r hr)]
          exact h.of_onlyCounted (Message.onlyCounted_of_course hcourse hnot)
      · rw [nextReference_of_none (request?_of_not_ok fun _ _ hsame => absurd hsame hphone)]
        exact known_elsewhere h hphone hcourse

/-- The agreement holds at every moment of a history that begins without chats. -/
theorem known_of_moments {es : List Event} {past future : List Moment} {now : Moment}
    (hchats : s.chats = Roster.empty) (hrows : ∀ r ∈ s.ledger.rows, r.id < s.ledger.nextId)
    (h : History.moments es s = past ++ now :: future) (phone : String) :
    ∃ e before, now = .ofEvent e before ∧ Known phone (reference phone past) before := by
  have hstart : Known phone (reference phone []) s :=
    Known.of_chatless hrows (by rw [hchats, Roster.get?_empty])
  have hstep : ∀ past e s, Known phone (reference phone past) s →
      Known phone (reference phone (past ++ [.ofEvent e s])) (e.happen s).2 := by
    intro past e s hknown
    rw [reference_append]
    exact known_happen hknown e
  exact History.moments_induction (P := fun past s => Known phone (reference phone past) s)
    hstep hstart h

end Events

end BukuKas
