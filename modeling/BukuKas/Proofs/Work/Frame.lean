import BukuKas.Proofs.Roster
import BukuKas.Proofs.Work.Rule

/-!
# What a unit of work leaves alone

Until it commits, a unit of work that writes for the user of one chat has touched next to nothing:
of the ledger only the counter of row numbers has gone on, and of the chats only the own one can
differ, in its alert, its last recording and its reminders.  `Drafts` says so of a desk, relative to
the service at which the work began; each query and each saved chat that the rule allows preserves
it, and so does a whole run.

## Main results

* `drafts_run` : the desk after any run of work under the rule of writing, whatever its result.
* `Service.OnlyCounted` : the relation between services that differ by the counter alone.
-/

namespace BukuKas

namespace Draft

/-- A query about one user leaves the committed ledger as it is, up to the counter. -/
theorem perform_ledger_of_user? (d : Draft) {q : Query} {user : Int} (h : q.user? = some user) :
    ∃ n, d.ledger.nextId ≤ n ∧ (d.perform q).2.ledger = { d.ledger with nextId := n } := by
  cases q with
  | insert user entry =>
      refine ⟨d.ledger.nextId + 1, by omega, ?_⟩
      simp only [perform, insert]
      split <;> rfl
  | delete user id =>
      refine ⟨d.ledger.nextId, by omega, ?_⟩
      simp only [perform, delete]
      split <;> rfl
  | findUser _ | commit | rollback => simp [Query.user?] at h
  | _ => exact ⟨d.ledger.nextId, by omega, rfl⟩

end Draft

namespace Desk

variable {plan : FaultPlan} {phone : String} {s : Service} {chat : Chat}

/-- A desk at which a unit of work of a chat has committed nothing yet. -/
structure Drafts (s : Service) (phone : String) (chat : Chat) (d : Desk) : Prop where
  /-- The ledger is the one from the beginning, up to the counter. -/
  ledger : ∃ n, s.ledger.nextId ≤ n ∧ d.draft.ledger = { s.ledger with nextId := n }
  /-- The chats are those from the beginning, up to what may change of the own one. -/
  chats : ∃ new, chat.restore new = new ∧ d.chats = s.chats.set phone new

theorem drafts_desk (h : s.chats.get? phone = some chat) : s.desk.Drafts s phone chat where
  ledger := ⟨s.ledger.nextId, by omega, rfl⟩
  chats := ⟨chat, chat.restore_self, (Roster.set_of_get? h).symm⟩

theorem Drafts.ask {d : Desk} (hd : d.Drafts s phone chat) {q : Query}
    (hq : q.user? = some chat.user) : (d.ask plan q).2.Drafts s phone chat where
  ledger := by
    obtain ⟨n, hn, hledger⟩ := hd.ledger
    rcases draft_ask plan d q with hdraft | hdraft
    · exact ⟨n, hn, by rw [hdraft, hledger]⟩
    · obtain ⟨k, hk, hperform⟩ := d.draft.perform_ledger_of_user? hq
      have hnk : n ≤ k := by simpa [hledger] using hk
      exact ⟨k, by omega, by rw [hdraft, hperform, hledger]⟩
  chats := by
    rw [chats_ask]
    exact hd.chats

/-- A commit that fails has done nothing. -/
theorem Drafts.of_failed_commit {d : Desk} (hd : d.Drafts s phone chat) {fault : Fault}
    (h : (d.ask plan .commit).1 = .error fault) : (d.ask plan .commit).2.Drafts s phone chat := by
  have hdraft : (d.ask plan .commit).2.draft = d.draft := by
    unfold Desk.ask at h ⊢
    dsimp only at h ⊢
    split at h
    · rename_i hplan
      rw [if_pos hplan]
    · exact nomatch h
  exact ⟨by rw [hdraft]; exact hd.ledger, by rw [chats_ask]; exact hd.chats⟩

theorem Drafts.contains {d : Desk} (hd : d.Drafts s phone chat) :
    d.chats.contains phone = true := by
  obtain ⟨new, -, hchats⟩ := hd.chats
  rw [hchats]
  exact Roster.contains_set_self s.chats phone new

theorem Drafts.save {d : Desk} (hd : d.Drafts s phone chat) {saved : Chat}
    (hsaved : chat.restore saved = saved) : (d.save phone saved).Drafts s phone chat where
  ledger := by
    unfold Desk.save
    rw [if_pos hd.contains]
    exact hd.ledger
  chats := by
    obtain ⟨new, -, hchats⟩ := hd.chats
    refine ⟨saved, hsaved, ?_⟩
    unfold Desk.save
    rw [if_pos hd.contains]
    show d.chats.set phone saved = s.chats.set phone saved
    rw [hchats, Roster.set_set]

/-- A query that changes no ledger without writes is no change for a desk where nothing was
written. -/
theorem service_ask {q : Query} (h : ∀ d : Draft, d.writes = [] → (d.perform q).2.ledger = d.ledger)
    (d : Desk) (hd : d.draft.writes = []) : (d.ask plan q).2.service = d.service := by
  have hledger : (d.ask plan q).2.draft.ledger = d.draft.ledger := by
    rcases draft_ask plan d q with hdraft | hdraft
    · rw [hdraft]
    · rw [hdraft]
      exact h d.draft hd
  unfold Desk.service
  rw [hledger, chats_ask]

end Desk

namespace Work

variable {α : Type} {fits : α → Prop} {phone : String} {s : Service} {chat : Chat}

/-- A run under the rule of writing commits nothing, and touches the own chat only. -/
theorem drafts_run {t : Work α} (h : t.Keeps (Rule.writing chat) fits) (plan : FaultPlan) {d : Desk}
    (hd : d.Drafts s phone chat) : (t.run plan phone d).2.Drafts s phone chat := by
  induction t generalizing d with
  | done a => exact hd
  | fail fault => exact hd
  | ask q next ih => exact ih _ (h.2 _) (hd.ask h.1)
  | look next ih => exact ih _ (h.2 _) hd
  | save saved next ih => exact ih h.2 (hd.save h.1)
  | enter saved next ih => exact h.elim
  | leave next ih => exact h.elim

end Work

/-- The second service is the first one, with a counter of row numbers that may have gone on. -/
def Service.OnlyCounted (before after : Service) : Prop :=
  ∃ n, before.ledger.nextId ≤ n ∧
    after = { before with ledger := { before.ledger with nextId := n } }

theorem Service.OnlyCounted.refl (s : Service) : s.OnlyCounted s :=
  ⟨s.ledger.nextId, by omega, rfl⟩

end BukuKas
