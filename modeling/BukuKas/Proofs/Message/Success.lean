import BukuKas.Proofs.Message.Response
import BukuKas.Proofs.Reply.Success

/-!
# Messages that cannot fail

On a sound ledger, and with no call made to fail, a message that can be read is answered or passed
over, and never met with a failure.  Its work succeeds as a whole: the answer does, the commit after
it does, and so do a login, a logout and help.

Quotients of doubles never fail here, whatever they are divided by; nor does a bar of blocks or a
list of days that lacks one.  So beside the response the main result says that no divisor is zero,
that no bar is without a number, and that no week lacks a day.

## Main results

* `handle_of_sound` : the response to a message on a sound ledger is no failure.
-/

namespace BukuKas

open Calendar (Date)
open Number (Binary64)

/-- The response is no failure. -/
def Response.IsFine (r : Response) : Prop := r.status = .ok ∨ r.status = .ignored

theorem Response.isFine_ofReply (reply : Reply) : (Response.ofReply reply).IsFine := by
  unfold Response.ofReply
  split
  · exact .inl rfl
  · exact .inr rfl

/-- What the answer to an intent relies on holds with a sound ledger, and as long as the work
lasts. -/
theorem Intent.exists_keptBy (intent : Intent) :
    ∃ known : Draft → Prop, intent.promise.KeptBy known ∧
      ∀ l : Ledger, l.Sound → known { ledger := l } := by
  have hsound : ∃ known : Draft → Prop, Promise.sound.KeptBy known ∧
      ∀ l : Ledger, l.Sound → known { ledger := l } :=
    ⟨Draft.Sound, Promise.keptBy_sound, fun _ hl => hl.modest.toSound⟩
  cases intent with
  | remaining => exact ⟨Draft.Modest, Promise.keptBy_modest, fun _ hl => hl.modest⟩
  | _ => exact hsound

/-- A commit and the search for a user are always answered. -/
theorem Intent.answers_of_promise (intent : Intent) :
    intent.promise.answers .commit ∧ ∀ email, intent.promise.answers (.findUser email) := by
  cases intent with
  | remaining =>
      exact ⟨⟨trivial, fun _ _ h => nomatch h⟩, fun _ => ⟨trivial, fun _ _ h => nomatch h⟩⟩
  | _ => exact ⟨trivial, fun _ => trivial⟩

namespace Message

variable {c : Circumstances} {m : Message} {s : Service} {promise : Promise}

theorem succeeds_login (h : ∀ email, promise.answers (.findUser email)) (text : List Char) :
    (Account.login text).Succeeds promise Response.IsFine := by
  unfold Account.login
  dsimp only
  split
  · refine Work.succeeds_bind (Work.succeeds_attempt (Work.succeeds_query (h _))) ?_
    rintro looked ⟨found, rfl, -⟩
    cases (found : Option User) with
    | none => exact .inl rfl
    | some user => exact fun _ => .inl rfl
  · exact .inl rfl

theorem succeeds_logout : Account.logout.Succeeds promise Response.IsFine := by
  refine Work.succeeds_bind Work.succeeds_chat? ?_
  intro chat _
  cases chat with
  | none => exact .inl rfl
  | some chat => exact .inl rfl

/-- What is said in a chat and can be read is answered and committed. -/
theorem succeeds_converse {today : Date} {text : List Char} {intent : Intent}
    (hread : Command.classify text today = .ok intent) (htoday : Date.earliest ≤ today)
    (hentries : ∀ e ∈ intent.entries, e.Keepable) :
    (converse c today text).Succeeds intent.promise Response.IsFine := by
  refine Work.succeeds_bind Work.succeeds_chat? ?_
  intro chat _
  cases chat with
  | none => exact .inr rfl
  | some chat =>
      have hsettle : (settle (c.occasion today) (some chat) intent).Succeeds intent.promise
          fun _ => True := by
        apply Work.succeeds_bind (Reply.succeeds_answer chat htoday hentries)
        intro reply _
        exact Work.succeeds_bind (Work.succeeds_query intent.answers_of_promise.1) fun _ _ =>
          trivial
      dsimp only
      apply Work.succeeds_bind (Work.succeeds_ofExcept ⟨intent, hread⟩)
      intro found hfound
      injection hread.symm.trans hfound with hfound
      subst hfound
      refine Work.succeeds_bind (Work.succeeds_attempt hsettle) ?_
      rintro result ⟨reply, rfl, -⟩
      exact Response.isFine_ofReply reply

/-- The whole work of a message with a local date succeeds, if its text can be read. -/
theorem succeeds_errandOf {today : Date} {intent : Intent}
    (hdate : c.localDate m.sentAt = .ok today)
    (htoday : Date.earliest ≤ today) (hread : Command.classify m.trimmed today = .ok intent)
    (hentries : ∀ e ∈ intent.entries, e.Keepable) (hasChat : Bool) :
    (errandOf c hasChat (m.request c)).work.Succeeds intent.promise Response.IsFine := by
  cases hrequest : m.request c with
  | error fault => exact absurd hrequest (request_ne_error hdate fault)
  | ok request =>
      cases request with
      | none => exact .inr rfl
      | some request =>
          cases request with
          | login text => exact succeeds_login intent.answers_of_promise.2 text
          | logout => exact succeeds_logout
          | help => exact .inl rfl
          | speech date text =>
              cases hasChat with
              | false => exact .inr rfl
              | true =>
                  obtain ⟨-, hsame, rfl⟩ := of_speech hrequest
                  injection hdate.symm.trans hsame with hsame
                  subst hsame
                  exact succeeds_converse hread htoday hentries

/-- On a sound ledger and with no call made to fail, a message that can be read, and that records
only what can be kept, is answered or passed over, whoever sends it.  On its date no report of an
active period divides by zero, a positive budget has a health, no bar lacks its blocks, and no week
lacks a day. -/
theorem handle_of_sound {today : Date} {intent : Intent} (hledger : s.ledger.Sound)
    (hdate : c.localDate m.sentAt = .ok today) (htoday : Date.earliest ≤ today)
    (hread : Command.classify m.trimmed today = .ok intent)
    (hentries : ∀ e ∈ intent.entries, e.Keepable) :
    (∃ r, (m.handle c .none s).1 = .ok r ∧ (r.status = .ok ∨ r.status = .ignored)) ∧
    (∀ user p, Ledger.activePeriod s.ledger.periods user = some p →
      p.Divides today ∧ ∀ spent, ¬p.budget ≤ 0 → ∃ health,
        Score.Health.ofBudget spent p.budget (p.daysLeft today) p.totalDays = .ok health) ∧
    (∀ percent : Int, ∃ n,
      (Progress.shown (.ofInt percent) / 100 * Binary64.ofNat Progress.blocks).round? = some n) ∧
    ∃ start, today.addDays? (-6) = some start ∧ (Reply.weekFrom start).length = 7 := by
  refine ⟨?_, ?_, Progress.exists_round_blocks, ?_⟩
  · obtain ⟨known, hkept, hknown⟩ := intent.exists_keptBy
    have hwork := succeeds_errandOf hdate htoday hread hentries (s.chats.get? m.phone).isSome
    have hdesk : known s.desk.draft := hknown s.ledger hledger
    obtain ⟨r, after, hrun, hfine, -⟩ := Work.run_of_succeeds hwork hkept m.phone hdesk
    rw [handle_eq, hrun]
    exact ⟨r, rfl, hfine⟩
  · intro user p hp
    obtain ⟨own, hown, rfl⟩ := Ledger.exists_of_activePeriod hp
    have hsound := hledger.periods own hown
    exact ⟨hsound.divides today, fun spent hbudget => Score.Health.exists_ofBudget spent hbudget
      hsound.totalDays_mem.1 (hsound.daysLeft_mem today)⟩
  · obtain ⟨start, hstart, -⟩ := Date.exists_earlier htoday (-6) (by decide) (by decide)
    exact ⟨start, hstart, Reply.length_weekFrom hstart htoday⟩

/-- An expense in a period whose budget is below zero, after another one, is answered or passed
over. -/
theorem handle_of_overdrawn_period :
    let today : Date := ⟨2026, 10, 19, by decide⟩
    let p : Period :=
      ⟨1, .ofRatio (-50000) 100, ⟨2026, 10, 1, by decide⟩, ⟨2026, 10, 31, by decide⟩⟩
    let row : Row := ⟨1, 1, "roti", .hundredths 1500000, "Lainnya", today, .expense, 1⟩
    let s : Service := {
      ledger := { periods := [⟨1, true, p⟩], rows := [row], nextId := 2 }
      chats := Roster.empty.set "62" { user := 1, email := "budi@gmail.com", name := "budi" } }
    let c : Circumstances := { settings := {}, now := ⟨1792378800⟩ }
    let m : Message := { sender := "62@c.us", text := some "kopi 20k" }
    (∃ r, (m.handle c .none s).1 = .ok r ∧ (r.status = .ok ∨ r.status = .ignored)) ∧
      p.Divides today := by
  intro today p row s c m
  have hledger : s.ledger.Sound := {
    periods := by
      intro own hown
      rw [List.mem_singleton.mp hown]
      exact ⟨by decide, ⟨-50000, by decide +kernel⟩, by decide +kernel⟩
    amounts := by
      intro r hr
      rw [List.mem_singleton.mp hr]
      exact (by decide +kernel : 1500000 < 100 * amountLimit)
    sums := by
      intro user
      have hsum : (Cash.total [.hundredths 1500000]).Below sumLimit :=
        (by decide +kernel : 1500000 < 100 * sumLimit)
      exact Cash.below_total_of_sublist (List.filter_sublist.map Row.amount) hsum }
  have hdate : c.localDate m.sentAt = .ok today := by decide +kernel
  let e : Entry := ⟨"Kopi", 20000, "Makanan & Minuman", today⟩
  have hread : Command.classify m.trimmed today = .ok (.add e) := by decide +kernel
  have hkeep : ∀ kept ∈ (Intent.add e).entries, kept.Keepable := by
    intro kept hkept
    rw [List.mem_singleton.mp hkept]
    exact ⟨by decide +kernel, by decide +kernel⟩
  obtain ⟨hresponse, hperiods, -, -⟩ :=
    handle_of_sound hledger hdate (by decide +kernel) hread hkeep
  exact ⟨hresponse, (hperiods 1 p (by decide +kernel)).1⟩

end Message

end BukuKas
