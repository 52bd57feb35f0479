import BukuKas.Proofs.Message.Effect
import BukuKas.Proofs.Renumbering.Event

/-!
# Failed messages are invisible

A message that fails leaves the ledger and the chats as they were, but it may have used up numbers.
So a history without its failed messages hands out other numbers than the full one, and this is all:
every other event is met with the same, and in the end the chats and the rows are the same up to the
numbers that were handed out on the way, which keep their order.

The induction runs the two histories side by side.  The full service differs from the other one by a
renumbering; an event that is kept preserves it, and a failed message moves the numbers that are
still to come further up.  No row and no chat has one of those, because all numbers in a service
were handed out before; this is the invariant `Numbered`.

## Main results

* `numbered_happen` : every event preserves the invariant.
* `run_without_failed` : a history without its failed messages.
-/

namespace BukuKas

/-- All numbers in a service were handed out before the next one. -/
structure Service.Numbered (s : Service) : Prop where
  /-- Rows get their numbers from the counter, so no ledger has a row with a number still to
  come. -/
  ids : ∀ r ∈ s.ledger.rows, r.id < s.ledger.nextId
  places : ∀ r ∈ s.ledger.rows, r.created < s.ledger.nextId
  lasts : ∀ item ∈ s.chats.items, ∀ id, item.2.last = some id → id < s.ledger.nextId

/-! ## The invariant -/

section Invariant

variable {s t : Service}

theorem Service.Numbered.of_onlyCounted (h : s.Numbered) (hcounted : s.OnlyCounted t) :
    t.Numbered := by
  obtain ⟨n, hn, rfl⟩ := hcounted
  refine ⟨fun r hr => ?_, fun r hr => ?_, fun item hitem id hid => ?_⟩
  · exact Int.lt_of_lt_of_le (h.ids r hr) hn
  · exact Int.lt_of_lt_of_le (h.places r hr) hn
  · exact Int.lt_of_lt_of_le (h.lasts item hitem id hid) hn

/-- The chat that is found under a phone refers to a number that was handed out before. -/
theorem Service.Numbered.last_of_get? (h : s.Numbered) {phone : String} {chat : Chat}
    (hchat : s.chats.get? phone = some chat) {id : Int} (hid : chat.last = some id) :
    id < s.ledger.nextId :=
  h.lasts (phone, chat) (Roster.mem_items_of_find? hchat) id hid

theorem Service.Numbered.of_login (h : s.Numbered) (phone : String) (user : User) :
    ({ s with chats := s.chats.set phone (Account.greeted user (s.chats.get? phone)) } :
      Service).Numbered := by
  refine ⟨h.ids, h.places, fun item hitem id hid => ?_⟩
  rcases Roster.mem_items_set hitem with hgreeted | hold
  · rw [hgreeted] at hid
    cases hchat : s.chats.get? phone with
    | none =>
        rw [hchat] at hid
        exact nomatch hid
    | some chat =>
        rw [hchat] at hid
        by_cases huser : chat.user = user.id
        · rw [(Account.greeted_of_same huser).2.1] at hid
          exact h.last_of_get? hchat hid
        · rw [Account.greeted_of_other huser] at hid
          exact nomatch hid
  · exact h.lasts item hold id hid

theorem Service.Numbered.of_logout (h : s.Numbered) (phone : String) :
    ({ s with chats := s.chats.erase phone } : Service).Numbered :=
  ⟨h.ids, h.places, fun item hitem => h.lasts item (List.mem_filter.mp hitem).1⟩

theorem Service.Numbered.of_after (h : s.Numbered) {phone : String} {chat : Chat}
    (hchat : s.chats.get? phone = some chat) {today : Calendar.Date} {intent : Intent}
    {st : Standing}
    (hafter : (s.standing chat).after today intent = some st) : (s.settled phone st).Numbered := by
  refine ⟨Standing.below_after (fun _ _ _ _ => rfl) hafter h.ids,
    Standing.below_after (fun _ _ _ _ => rfl) hafter h.places, fun item hitem id hid => ?_⟩
  rcases Roster.mem_items_set hitem with hown | hold
  · rw [hown] at hid
    exact Standing.last_after hafter (fun _ => h.last_of_get? hchat) id hid
  · exact Int.lt_of_lt_of_le (h.lasts item hold id hid) (Standing.next_le_after hafter)

/-- Every event preserves the invariant, and does not take the counter back. -/
theorem numbered_happen (h : s.Numbered) (e : Event) :
    (e.happen s).2.Numbered ∧ s.ledger.nextId ≤ (e.happen s).2.ledger.nextId := by
  cases e with
  | job threshold plan today gateway which =>
      show (which.run threshold plan today gateway s).2.service.Numbered ∧ _ ≤
        (which.run threshold plan today gateway s).2.service.ledger.nextId
      rw [Job.service_run]
      exact ⟨h, Int.le_refl _⟩
  | message c plan m =>
      have hcourse := Message.course_of_handle c plan m s
      show (m.handle c plan s).2.service.Numbered ∧ _ ≤ (m.handle c plan s).2.service.ledger.nextId
      generalize (m.handle c plan s).1 = result at hcourse
      generalize (m.handle c plan s).2 = after at hcourse ⊢
      cases hcourse with
      | unheard | undated | addressless | notLoggedIn | helped | stranger | unread =>
          exact ⟨h, Int.le_refl _⟩
      | unsearchable hrequest email =>
          rw [Message.service_unsearchable]
          exact ⟨h, Int.le_refl _⟩
      | unknown hrequest email =>
          rw [Message.service_findUser]
          exact ⟨h, Int.le_refl _⟩
      | loggedIn hrequest email hfound =>
          rw [Message.service_loggedIn]
          exact ⟨h.of_login m.phone _, Int.le_refl _⟩
      | loggedOut hrequest hchat => exact ⟨h.of_logout m.phone, Int.le_refl _⟩
      | answered hrequest hchat hread hrun hcommit =>
          obtain ⟨st, hafter, hservice⟩ := Message.service_of_answered hchat hrun hcommit
          rw [hservice]
          exact ⟨h.of_after hchat hafter, Standing.next_le_after hafter⟩
      | failed hrequest hchat hread hrun hgood hcounted =>
          obtain ⟨n, hn, hservice⟩ := hcounted
          refine ⟨h.of_onlyCounted ⟨n, hn, hservice⟩, ?_⟩
          rw [hservice]
          exact hn

end Invariant

/-! ## Failed messages -/

namespace Encounter

/-- Whether a message failed: it was answered with an error, or raised a fault. -/
def isFailed : Encounter → Bool
  | response (.ok r) => r.status == .error
  | response (.error _) => true
  | run _ => false

end Encounter

namespace History

/-- The events of a history that did not fail, with what they were met with. -/
def kept (es : List Event) (s : Service) : List (Event × Encounter) :=
  (es.zip (run es s).1).filter fun pair => !pair.2.isFailed

theorem kept_cons_of_failed {e : Event} {s : Service} (h : (e.happen s).1.isFailed = true)
    (es : List Event) : kept (e :: es) s = kept es (e.happen s).2 := by
  simp [kept, run, h]

theorem kept_cons_of_not_failed {e : Event} {s : Service} (h : (e.happen s).1.isFailed = false)
    (es : List Event) : kept (e :: es) s = (e, (e.happen s).1) :: kept es (e.happen s).2 := by
  simp [kept, run, h]

end History

/-- A failed message has only used up numbers. -/
theorem onlyCounted_of_isFailed {e : Event} {s : Service} (h : (e.happen s).1.isFailed = true) :
    s.OnlyCounted (e.happen s).2 := by
  cases e with
  | job threshold plan today gateway which => exact nomatch h
  | message c plan m =>
      refine Message.onlyCounted_of_course (Message.course_of_handle c plan m s) fun r hr hok => ?_
      have hfailed : (Encounter.response (m.handle c plan s).1).isFailed = true := h
      rw [hr] at hfailed
      simp [Encounter.isFailed, hok] at hfailed

section SideBySide

variable {base : Int} {g : Renumbering base} {s t : Service}

/-- Numbers that are used up move the numbers still to come further up, and nothing else. -/
theorem Service.Renumbered.of_onlyCounted (h : s.Renumbered g t) (hs : s.Numbered)
    (hbase : base ≤ s.ledger.nextId) {after : Service} (hcounted : t.OnlyCounted after) :
    ∃ lifted : Renumbering base, s.Renumbered lifted after := by
  obtain ⟨n, hn, rfl⟩ := hcounted
  refine ⟨g.lift s.ledger.nextId (n - t.ledger.nextId) hbase (by omega), ?_, ?_⟩
  · refine ⟨h.ledger.users, h.ledger.periods, ?_, fun k hk => ?_⟩
    · refine h.ledger.rows.trans (List.map_congr_left fun r hr => ?_)
      apply Renumbering.row_congr
      · exact (Renumbering.lift_of_lt (hs.ids r hr)).symm
      · exact (Renumbering.lift_of_lt (hs.places r hr)).symm
    · have hnext := h.ledger.next k hk
      rw [Renumbering.lift_of_le hk]
      show g.number k + (n - t.ledger.nextId) = k + (n - s.ledger.nextId)
      omega
  · refine h.chats.trans (Roster.mapValues_congr fun item hitem => ?_)
    apply Renumbering.chat_congr
    intro id hid
    exact (Renumbering.lift_of_lt (hs.lasts item hitem id hid)).symm

/-- The two histories side by side. -/
theorem run_kept {es : List Event} (h : s.Renumbered g t) (hs : s.Numbered)
    (hbase : base ≤ s.ledger.nextId) :
    (History.run ((History.kept es t).map Prod.fst) s).1 = (History.kept es t).map Prod.snd ∧
      ∃ last : Renumbering base, (History.after ((History.kept es t).map Prod.fst) s).Renumbered last
        (History.after es t) := by
  induction es generalizing g s t with
  | nil => exact ⟨rfl, g, h⟩
  | cons e es ih =>
      cases hfailed : (e.happen t).1.isFailed with
      | true =>
          rw [History.kept_cons_of_failed hfailed]
          obtain ⟨lifted, hlifted⟩ := h.of_onlyCounted hs hbase (onlyCounted_of_isFailed hfailed)
          exact ih hlifted hs hbase
      | false =>
          rw [History.kept_cons_of_not_failed hfailed]
          obtain ⟨hmet, hafter⟩ := happen_renumbered h e
          obtain ⟨hnumbered, hnext⟩ := numbered_happen hs e
          obtain ⟨hrest, last, hlast⟩ := ih hafter hnumbered (Int.le_trans hbase hnext)
          refine ⟨?_, last, hlast⟩
          show (e.happen s).1 :: (History.run _ (e.happen s).2).1 = (e.happen t).1 :: _
          rw [hmet, hrest]

end SideBySide

/-- A service is renumbered to itself when no number is changed. -/
theorem Service.renumbered_same (s : Service) (base : Int) :
    s.Renumbered (Renumbering.same base) s := by
  refine ⟨⟨rfl, rfl, ?_, fun n _ => ?_⟩, ?_⟩
  · exact (List.map_id s.ledger.rows).symm
  · show n = n + (s.ledger.nextId - s.ledger.nextId)
    omega
  · refine (Roster.mapValues_id s.chats).symm.trans (Roster.mapValues_congr fun item _ => ?_)
    exact (Renumbering.chat_same base item.2).symm

/-- Without its failed messages a history meets every other event with the same, and leads to the
same chats and rows up to a renumbering of the numbers that were handed out on the way. -/
theorem run_without_failed {s : Service} (hs : s.Numbered) (es : List Event) :
    (History.run ((History.kept es s).map Prod.fst) s).1 = (History.kept es s).map Prod.snd ∧
      ∃ g : Renumbering s.ledger.nextId,
        (History.after es s).chats =
            (History.after ((History.kept es s).map Prod.fst) s).chats.mapValues g.chat ∧
          (History.after es s).ledger.rows =
            (History.after ((History.kept es s).map Prod.fst) s).ledger.rows.map g.row := by
  obtain ⟨hmet, g, hlast⟩ := run_kept (s.renumbered_same s.ledger.nextId) hs (Int.le_refl _)
  exact ⟨hmet, g, hlast.chats, hlast.ledger.rows⟩

/-- Of two expenses the second one cannot be recorded, so the message fails and has used up number
8.  The next message records under number 9; without the failed one it records under number 8. -/
theorem run_without_failed_of_refused :
    let chat : Chat := { user := 1, email := "budi@gmail.com", name := "budi", last := some 7 }
    let s : Service := { ledger := { nextId := 8 }, chats := Roster.empty.set "62" chat }
    let sends (plan : FaultPlan) (text : String) : Event :=
      .message { settings := {}, now := ⟨1792378800⟩ } plan
        { sender := "62@c.us", text := some text }
    let es := [sends (fun duty call => duty == .insert && call == 2) "kopi 20k, roti 15k",
      sends .none "teh 5k"]
    ((History.after es s).ledger.rows.map Row.id = [9] ∧
      (History.after ((History.kept es s).map Prod.fst) s).ledger.rows.map Row.id = [8]) ∧
      (History.run ((History.kept es s).map Prod.fst) s).1 = (History.kept es s).map Prod.snd ∧
      ∃ g : Renumbering s.ledger.nextId,
        (History.after es s).chats =
            (History.after ((History.kept es s).map Prod.fst) s).chats.mapValues g.chat ∧
          (History.after es s).ledger.rows =
            (History.after ((History.kept es s).map Prod.fst) s).ledger.rows.map g.row := by
  intro chat s sends es
  have hnumbers : (History.after es s).ledger.rows.map Row.id = [9] ∧
      (History.after ((History.kept es s).map Prod.fst) s).ledger.rows.map Row.id = [8] := by
    decide +kernel
  have hnumbered : s.Numbered := by
    refine ⟨by simp [s], by simp [s], fun item hitem id hid => ?_⟩
    have hitem : item = ("62", chat) := List.mem_singleton.mp hitem
    subst hitem
    have hid : 7 = id := Option.some.inj hid
    show id < 8
    omega
  exact ⟨hnumbers, run_without_failed hnumbered es⟩

end BukuKas
