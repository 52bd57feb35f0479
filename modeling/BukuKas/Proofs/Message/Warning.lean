import BukuKas.Proofs.Job.Isolation
import BukuKas.Proofs.Message.Experience

/-!
# The warning and the budget check

The reply to a recording ends with a warning when the budget is nearly spent, and the budget check
sends such warnings to all chats.  Both read the same of the ledger.  The warning is worked out
before the recording is committed, from the rows with its writes applied; these are the committed
rows a moment later, and neither the periods nor the alert of the chat change meanwhile.  So the
check says again what the reply has said, word for word, and is silent where the reply has no
warning.

## Main results

* `Job.run_budgetCheck` : what the budget check sends.
* `Reply.text_of_ending` : the warning as the last paragraph of a reply.
* `Message.echoes_of_handle` : the warning of a reply and the next budget check.
-/

namespace BukuKas

open Calendar (Date)
open Number (Binary64)
open Reply (experienceText joinLines)

/-! ## The budget check -/

namespace Job

variable (threshold : Binary64) (today : Date)

/-- The budget check says to a chat what the ledger calls for. -/
theorem alone_budgetCheck (s : Service) (chat : Chat) :
    Job.budgetCheck.alone threshold today s chat = .ok (s.desk.draft.warning? threshold chat) := by
  show (Work.run .none "" (if chat.alert = true then _ else _) s.desk).1 = _
  unfold Draft.warning?
  split
  · obtain ⟨after, hstatus⟩ := Reply.run_budgetStatus chat.user "" s.desk
    rw [Work.run_bind_of_ok hstatus]
    rfl
  · rfl

/-- Through a gateway that works, the budget check sends to each phone what the ledger calls for. -/
theorem run_budgetCheck {gateway : String → Gateway.Answer}
    (hworks : ∀ phone, Gateway.refuses (gateway phone) = false) (s : Service) :
    ∃ run, (Job.budgetCheck.run threshold .none today gateway s).1 = .ok run ∧
    run.summary.failed = 0 ∧
      ∀ phone,
        run.received phone = (s.chats.get? phone).bind (s.desk.draft.warning? threshold) := by
  have halone := alone_budgetCheck threshold today s
  have houtcomes := run_runOver threshold today gateway .budgetCheck halone s.chats.items rfl
  have hisolates := isolates_of .budgetCheck (s.desk.draft.warning? threshold)
    (fun phone => Gateway.refuses (gateway phone)) s.chats
  refine ⟨_, run_eq threshold today .none gateway .budgetCheck houtcomes, ?_, fun phone => ?_⟩
  · rw [hisolates.failed, List.countP_eq_zero]
    intro item _
    rw [hworks]
    exact Bool.false_ne_true
  · rw [hisolates.received, hworks]
    rfl

/-- The run says to a phone what a reply says below its base text: a text below the base text, with
an empty line between them, is the text that the phone receives, and a reply that ends with its base
text goes with silence.  With the alert off there is neither. -/
structure Run.Echoes (run : Run) (phone : String) (chat : Chat) (base : String)
    (reply : Option String) :
    Prop where
  failed : run.summary.failed = 0
  warned : ∀ paragraph, reply = some (base ++ "\n\n" ++ paragraph) ↔
    run.received phone = some paragraph
  silent : reply = some base ↔ run.received phone = none
  off : chat.alert = false → reply = some base ∧ run.received phone = none

end Job

/-! ## The last paragraph -/

namespace Alert

/-- A text with a warning as its last paragraph, if there is one. -/
def below (base : String) : Option String → String
  | none => base
  | some message => base ++ "\n\n" ++ message

/-- The warning can be told from the text. -/
theorem below_inj {base : String} {first second : Option String} :
    below base first = below base second ↔ first = second := by
  refine ⟨fun h => ?_, congrArg (below base)⟩
  have hlength (message : String) : base ≠ base ++ "\n\n" ++ message := by
    intro hsame
    have hlong := congrArg (fun text => text.toList.length) hsame
    simp at hlong
  cases first with
  | none =>
      cases second with
      | none => rfl
      | some message => exact absurd h (hlength message)
  | some message =>
      cases second with
      | none => exact absurd h.symm (hlength message)
      | some other =>
          have hsame : message = other := by
            simpa [below, String.append_assoc] using h
          rw [hsame]

end Alert

namespace Reply

theorem joinLines_lines {lines : List String} (hne : lines ≠ []) (warning : Option String) :
    joinLines (lines ++ Alert.lines warning) = Alert.below (joinLines lines) warning := by
  cases warning with
  | none => exact congrArg joinLines (List.append_nil lines)
  | some message =>
      have hline : "\n".intercalate ["", message] = "\n" ++ message := by
        rw [String.intercalate_cons_of_ne_nil (List.cons_ne_nil _ _), String.intercalate_singleton]
        rfl
      rw [joinLines, Alert.lines, String.intercalate_append_of_ne_nil hne (List.cons_ne_nil _ _),
        hline]
      have hempty : "\n\n" = "\n" ++ "\n" := by decide
      rw [Alert.below, joinLines, hempty, String.append_assoc, String.append_assoc,
        String.append_assoc]

/-- The warning is the last paragraph of a reply to a recording. -/
theorem text_of_ending {intent : Intent} {finish : String → List String → Reply}
    (h : ending? intent = some finish) (experience : String) : ∃ base,
      (finish experience []).text = some base ∧
      ∀ warning, (finish experience (Alert.lines warning)).text =
        some (Alert.below base warning) := by
  cases intent with
  | add e =>
      obtain rfl := Option.some.inj h
      exact ⟨_, congrArg (fun lines => some (joinLines lines)) (List.append_nil _),
        fun warning => congrArg some (joinLines_lines (List.cons_ne_nil _ _) warning)⟩
  | addMany es =>
      obtain rfl := Option.some.inj h
      exact ⟨_, congrArg (fun lines => some (joinLines lines)) (List.append_nil _),
        fun warning => congrArg some (joinLines_lines (by simp) warning)⟩
  | _ => exact nomatch h

end Reply

/-- A reply and a run that say the same warning below a base text echo one another. -/
theorem Job.Run.echoes_of_warning {run : Run} {phone base : String} {chat : Chat}
    {threshold : Binary64} {d : Draft} (hfailed : run.summary.failed = 0)
    (hphone : run.received phone = d.warning? threshold chat) :
    run.Echoes phone chat base (some (Alert.below base (d.warning? threshold chat))) where
  failed := hfailed
  warned paragraph := by
    rw [hphone, Option.some_inj]
    exact @Alert.below_inj base _ (some paragraph)
  silent := by
    rw [hphone, Option.some_inj]
    exact @Alert.below_inj base _ none
  off hoff := by
    have hnone : d.warning? threshold chat = none := if_neg (Bool.eq_false_iff.mp hoff)
    rw [hphone, hnone]
    exact ⟨rfl, rfl⟩

/-! ## Messages -/

namespace Standing

variable {st last : Standing} {es : List Entry}

/-- Recordings leave the chat with its user and its alert. -/
theorem chat_recordAll (h : st.recordAll es = some last) :
    last.chat.user = st.chat.user ∧ last.chat.alert = st.chat.alert := by
  refine recordAll_induction (P := fun other =>
    other.chat.user = st.chat.user ∧ other.chat.alert = st.chat.alert) ?_ h ⟨rfl, rfl⟩
  intro first next e _ hrecord hfirst
  obtain ⟨amount, rfl⟩ := of_record hrecord
  exact hfirst

end Standing

namespace Message

variable {c : Circumstances} {plan : FaultPlan} {m : Message} {s : Service} {today : Date}
variable {intent : Intent}

/-- The warning after a commit is the one from before it. -/
theorem warning?_of_commit {d : Desk} (h : (d.ask plan .commit).1 = .ok ()) (threshold : Binary64)
    (chat : Chat) : (d.ask plan .commit).2.service.desk.draft.warning? threshold chat =
      d.draft.warning? threshold chat := by
  have hdraft : (d.ask plan .commit).2.draft = d.draft.commit := (Desk.perform_of_ask h).2
  unfold Desk.service
  rw [hdraft]
  rfl

/-- The warning of a reply and the next budget check agree.  A message that records expenses and is
answered with a success, whatever fails on the way, is answered with a base text, which tells the
points, and perhaps with a warning below it.  Whenever the budget check runs on the ledger and the
chats that the message leaves, through a gateway that works, no chat fails, and the phone of the
message receives the warning of the reply, or nothing if the reply has none. -/
theorem echoes_of_handle {r : Response} (hintends : m.Intends c today intent)
    (hrecords : intent.records = true) (hr : (m.handle c plan s).1 = .ok r)
    (hstatus : r.status = .ok) :
    ∃ chat points finish base, s.chats.get? m.phone = some chat ∧
      Score.totalPoints (Ledger.amounts (m.handle c plan s).2.service.ledger.rows chat.user) =
        .ok points ∧
      Reply.ending? intent = some finish ∧
      (finish (experienceText (intent.entries.map Entry.gain).sum points) []).text = some base ∧
      ∀ day gateway, (∀ phone, Gateway.refuses (gateway phone) = false) →
        ∃ run, (Job.budgetCheck.run c.settings.alertThreshold .none day gateway
            (m.handle c plan s).2.service).1 = .ok run ∧
          run.Echoes m.phone chat base r.reply := by
  have hcourse := course_of_handle c plan m s
  rw [hr] at hcourse
  obtain ⟨chat, reply, d, hchat, rfl, hrun, hcommit, hlast⟩ :=
    answered_of_intends hintends hcourse hstatus
  obtain ⟨last, points, finish, hrecord, hpoints, hfinish, htold⟩ :=
    Reply.told_answer hrecords (Service.shows_desk hchat) hrun
  obtain ⟨other, hother, hservice⟩ := service_of_answered hchat hrun hcommit
  rw [Standing.after_of_records hrecords, hrecord] at hother
  obtain rfl := Option.some.inj hother
  obtain ⟨base, hbase, hbelow⟩ := Reply.text_of_ending hfinish
    (experienceText (intent.entries.map Entry.gain).sum points)
  refine ⟨chat, points, finish, base, hchat, ?_, hfinish, hbase, fun day gateway hworks => ?_⟩
  · rw [hlast, hservice]
    exact hpoints
  · obtain ⟨run, hran, hfailed, hreceived⟩ :=
      Job.run_budgetCheck c.settings.alertThreshold day hworks (m.handle c plan s).2.service
    obtain ⟨huser, halert⟩ := Standing.chat_recordAll hrecord
    have hsame (draft : Draft) (threshold : Binary64) :
        draft.warning? threshold last.chat = draft.warning? threshold chat := by
      rw [Draft.warning?, huser, halert]
      rfl
    have hphone : run.received m.phone = d.draft.warning? c.settings.alertThreshold chat := by
      rw [hreceived, hlast, ← hsame, ← warning?_of_commit hcommit, hservice, Service.get?_settled]
      rfl
    have hreply : (Response.ofReply reply).reply =
        some (Alert.below base (d.draft.warning? c.settings.alertThreshold chat)) := by
      rw [Response.ofReply, htold, hbelow]
      rfl
    rw [hreply]
    exact ⟨run, hran, Job.Run.echoes_of_warning hfailed hphone⟩

/-- A lunch and a coffee that bring a budget to its threshold, and the budget check of the next
day. -/
theorem echoes_of_handle_of_lunch :
    let chat : Chat := { user := 1, email := "budi@gmail.com", name := "budi" }
    let period : Period := ⟨1, 100000, ⟨2026, 10, 1, by decide⟩, ⟨2026, 10, 31, by decide⟩⟩
    let s : Service :=
      { ledger := { periods := [⟨1, true, period⟩] }, chats := Roster.empty.set "62" chat }
    let c : Circumstances := { settings := {}, now := ⟨1792378800⟩ }
    let m : Message := { sender := "62@c.us", text := some "makan siang 60k, kopi 25k" }
    let today : Date := ⟨2026, 10, 19, by decide⟩
    let es : List Entry := [⟨"Makan siang", 60000, "Makanan & Minuman", today⟩,
      ⟨"Kopi", 25000, "Makanan & Minuman", today⟩]
    let warning := "⚠️ *Hati-hati!* Budget sudah terpakai 85%. Sisa Rp15.000."
    m.Intends c today (.addMany es) ∧
      ∃ r base run, (m.handle c .none s).1 = .ok r ∧
        (Job.budgetCheck.run c.settings.alertThreshold .none ⟨2026, 10, 20, by decide⟩
          (fun _ => .status 200) (m.handle c .none s).2.service).1 = .ok run ∧
        r.reply = some (base ++ "\n\n" ++ warning) ∧ run.received "62" = some warning := by
  intro chat period s c m today es warning
  have hread : Command.classify m.trimmed today = .ok (.addMany es) := by decide +kernel
  have hintends : m.Intends c today (.addMany es) :=
    intends_of_list (by decide +kernel) (by decide +kernel) hread (by decide +kernel)
  have hstatus : (m.handle c .none s).1.toOption.map Response.status = some .ok := by decide +kernel
  have hreceived : (Job.budgetCheck.run c.settings.alertThreshold .none ⟨2026, 10, 20, by decide⟩
      (fun _ => .status 200) (m.handle c .none s).2.service).1.toOption.map (·.received "62") =
        some (some warning) := by decide +kernel
  have hphone : m.phone = "62" := by decide +kernel
  clear_value warning es s m
  refine ⟨hintends, ?_⟩
  cases hr : (m.handle c .none s).1 with
  | error fault =>
      rw [hr] at hstatus
      exact nomatch hstatus
  | ok r =>
      rw [hr] at hstatus
      have hok := Option.some.inj hstatus
      obtain ⟨_, _, _, base, _, _, _, _, hecho⟩ := echoes_of_handle hintends rfl hr hok
      obtain ⟨run, hrun, hechoes⟩ :=
        hecho ⟨2026, 10, 20, by decide⟩ (fun _ => .status 200) fun _ => rfl
      rw [hrun] at hreceived
      rw [hphone] at hechoes
      have htold : run.received "62" = some warning := Option.some.inj hreceived
      exact ⟨r, base, run, rfl, hrun, (hechoes.warned warning).mpr htold, htold⟩

end Message

end BukuKas
