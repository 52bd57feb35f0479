import BukuKas.Proofs.Command.Entry
import BukuKas.Proofs.Job
import BukuKas.Proofs.Message.Meaning
import BukuKas.Proofs.Moment
import BukuKas.Proofs.Number.Finite

/-!
# Rows are well formed

Rows have different numbers, all of them handed out by the counter, and what a message records is an
expense with a positive finite amount, one of the categories, and an item.

No rule of the answers looks whether an amount is finite.  The ledger takes no other; and whatever
it takes, the points of an infinite amount cannot be told, so the answer fails before it is
committed, and what it has written is rolled back, the other rows of the same message included.

## Main results

* `finite_of_answer` : an answer that comes to an end has recorded finite amounts only.
* `wellFormed_happen` : one event keeps the rows well formed.
* `wellFormed_after` : a history keeps the rows well formed, and amounts that are not finite out.
-/

namespace BukuKas

open Calendar (Date)
open Number (Binary64)

/-! ## Rows -/

/-- A row as a message records it. -/
structure Row.Proper (r : Row) : Prop where
  kind : r.kind = .expense
  positive : ∃ n, r.amount = .hundredths n ∧ 0 < n
  finite : r.amount.toDouble.isFinite = true
  category : r.category ∈ Category.all.map Category.name
  item : r.item ≠ ""

theorem Row.proper_ofEntry {e : Entry} {amount : Cash} (hdescribed : e.Described)
    (hamount : Cash.ofDouble? e.amount = some amount) (id user : Int) :
    (Row.ofEntry id user amount e).Proper where
  kind := rfl
  positive := (Cash.proper_of_ofDouble? hamount).1
  finite := (Cash.proper_of_ofDouble? hamount).2
  category := hdescribed.category
  item := hdescribed.item

namespace Standing

variable {st last : Standing} {today : Date} {intent : Intent}

/-- The rows have different numbers, and all of them were handed out. -/
def Keyed (st : Standing) : Prop := (st.rows.map Row.id).Nodup ∧ st.Below Row.id

theorem keyed_after (h : st.after today intent = some last) (hst : st.Keyed) : last.Keyed := by
  refine ⟨?_, below_after (fun _ _ _ _ => rfl) h hst.2⟩
  refine (after_induction (P := Keyed) ?_ ?_ ?_ h hst).1
  · rintro first next e hrecord ⟨hkeys, hbelow⟩
    obtain ⟨amount, rfl⟩ := of_record hrecord
    have hnext : ∀ r ∈ first.rows, r.id ≠ first.next := fun r hr => Int.ne_of_lt (hbelow r hr)
    refine ⟨?_, ?_⟩
    · show ((first.rows ++ [_]).map Row.id).Nodup
      rw [List.map_append, List.nodup_append]
      refine ⟨hkeys, by simp, ?_⟩
      rintro id hid _ hlast rfl
      obtain ⟨r, hr, hsame⟩ := List.mem_map.mp hid
      exact hnext r hr (hsame.trans (List.mem_singleton.mp hlast))
    · intro r hr
      rcases List.mem_append.mp hr with hr | hr
      · have hlt := hbelow r hr
        show r.id < first.next + 1
        omega
      · rw [List.mem_singleton.mp hr]
        show first.next < first.next + 1
        omega
  · rintro first id ⟨hkeys, hbelow⟩
    exact ⟨hkeys.sublist (List.filter_sublist.map _), fun r hr =>
      hbelow r (Write.mem_apply_delete.mp hr).1⟩
  · intro first chat _ _ hfirst
    exact hfirst

/-- A row is there from before, or records an entry of the intent. -/
theorem mem_rows_after (h : st.after today intent = some last) : ∀ r ∈ last.rows, r ∈ st.rows ∨
    ∃ e ∈ intent.entries, ∃ amount id user, Cash.ofDouble? e.amount = some amount ∧
      r = Row.ofEntry id user amount e := by
  refine after_induction_entries (P := fun other => ∀ r ∈ other.rows, r ∈ st.rows ∨
    ∃ e ∈ intent.entries, ∃ amount id user, Cash.ofDouble? e.amount = some amount ∧
      r = Row.ofEntry id user amount e) ?_ ?_ ?_ h fun r hr => .inl hr
  · intro first next e he hrecord hfirst r hr
    obtain ⟨amount, hamount, rfl⟩ := Option.map_eq_some_iff.mp hrecord
    rcases List.mem_append.mp hr with hr | hr
    · exact hfirst r hr
    · exact .inr ⟨e, he, amount, _, _, hamount, List.mem_singleton.mp hr⟩
  · intro first id hfirst r hr
    exact hfirst r (Write.mem_apply_delete.mp hr).1
  · intro first chat _ _ hfirst
    exact hfirst

end Standing

/-! ## Answers -/

namespace Reply

variable {plan : FaultPlan} {phone : String} {d after : Desk}

/-- Work that needs the points of an amount comes to an end only if the amount is finite. -/
theorem finite_of_points {amount : Binary64} {earned : Int}
    (h : (Work.ofExcept (Score.points amount)).run plan phone d = (.ok earned, after)) :
    amount.isFinite = true := by
  rw [Work.run_ofExcept] at h
  exact Score.exists_points_iff.mp ⟨earned, (Prod.mk.inj h).1⟩

theorem finite_of_addAll {es : List Entry} {chat : Chat} {earned : Int} {result : Chat × Int}
    (h : (addAll chat earned es).run plan phone d = (.ok result, after)) :
    ∀ e ∈ es, e.amount.isFinite = true := by
  induction es generalizing chat earned d with
  | nil => exact fun _ he => nomatch he
  | cons e es ih =>
      obtain ⟨recording, d₁, -, h⟩ := Work.ok_of_run_bind h
      obtain ⟨done, d₂, -, h⟩ := Work.ok_of_run_bind h
      obtain ⟨points, d₃, hpoints, h⟩ := Work.ok_of_run_bind h
      intro other hother
      rcases List.mem_cons.mp hother with rfl | hother
      · exact finite_of_points hpoints
      · exact ih h other hother

/-- An answer that comes to an end has recorded finite amounts only. -/
theorem finite_of_answer {o : Occasion} {chat : Chat} {intent : Intent} {reply : Reply}
    (h : (answer o (some chat) intent).run plan phone d = (.ok reply, after)) :
    ∀ e ∈ intent.entries, e.amount.isFinite = true := by
  cases intent with
  | add e =>
      obtain ⟨recording, d₁, -, h⟩ := Work.ok_of_run_bind h
      obtain ⟨done, d₂, -, h⟩ := Work.ok_of_run_bind h
      obtain ⟨points, d₃, hpoints, -⟩ := Work.ok_of_run_bind h
      intro other hother
      rw [List.mem_singleton.mp hother]
      exact finite_of_points hpoints
  | addMany es =>
      obtain ⟨result, d₁, hall, -⟩ := Work.ok_of_run_bind h
      exact finite_of_addAll hall
  | _ => exact fun _ he => nomatch he

end Reply

/-! ## Events -/

/-- The rows have different numbers below the next one, and those that were not there in the
beginning are as a message records them. -/
structure Ledger.WellFormed (old : List Row) (l : Ledger) : Prop where
  keys : (l.rows.map Row.id).Nodup
  below : ∀ r ∈ l.rows, r.id < l.nextId
  proper : ∀ r ∈ l.rows, r ∈ old ∨ r.Proper

/-- Rows stay well formed when only the counter goes on. -/
theorem Ledger.WellFormed.of_rows {old : List Row} {l other : Ledger} (h : l.WellFormed old)
    (hrows : other.rows = l.rows) (hnext : l.nextId ≤ other.nextId) : other.WellFormed old where
  keys := hrows ▸ h.keys
  below r hr := Int.lt_of_lt_of_le (h.below r (hrows ▸ hr)) hnext
  proper r hr := h.proper r (hrows ▸ hr)

section Messages

variable {old : List Row} {c : Circumstances} {plan : FaultPlan} {m : Message} {s : Service}

/-- A message leaves the rows as they are, or it is answered and has done what its intent means, and
all that it has recorded is finite. -/
theorem Message.rows_of_course {result : Except Fault Response} {after : Desk}
    (hcourse : Course c plan m s result after) :
    (after.service.ledger.rows = s.ledger.rows ∧
        s.ledger.nextId ≤ after.service.ledger.nextId) ∨
      ∃ today chat intent last, c.localDate m.sentAt = .ok today ∧
        Command.classify m.trimmed today = .ok intent ∧
        (s.standing chat).after today intent = some last ∧
        (∀ e ∈ intent.entries, e.amount.isFinite = true) ∧
        after.service = s.settled m.phone last := by
  cases hcourse with
  | unheard | undated | addressless | notLoggedIn | loggedOut | helped | stranger | unread =>
      exact .inl ⟨rfl, Int.le_refl _⟩
  | unsearchable hrequest email =>
      rw [service_unsearchable]
      exact .inl ⟨rfl, Int.le_refl _⟩
  | unknown hrequest email =>
      rw [service_findUser]
      exact .inl ⟨rfl, Int.le_refl _⟩
  | loggedIn hrequest email hfound =>
      rw [service_loggedIn]
      exact .inl ⟨rfl, Int.le_refl _⟩
  | @answered today text chat intent reply d hrequest hchat hread hrun hcommit =>
      obtain ⟨-, hdate, rfl⟩ := of_speech hrequest
      obtain ⟨last, hafter, hservice⟩ := service_of_answered hchat hrun hcommit
      exact .inr ⟨today, chat, intent, last, hdate, hread, hafter, Reply.finite_of_answer hrun,
        hservice⟩
  | failed hrequest hchat hread hrun hgood hcounted =>
      obtain ⟨n, hnext, hservice⟩ := hcounted
      rw [hservice]
      exact .inl ⟨rfl, hnext⟩

/-- One event keeps the rows well formed. -/
theorem wellFormed_happen (h : s.ledger.WellFormed old) (e : Event) :
    (e.happen s).2.ledger.WellFormed old := by
  cases e with
  | job threshold plan today gateway which =>
      show (which.run threshold plan today gateway s).2.service.ledger.WellFormed old
      rw [Job.service_run]
      exact h
  | message c plan m =>
      show (m.handle c plan s).2.service.ledger.WellFormed old
      rcases Message.rows_of_course (Message.course_of_handle c plan m s) with
        ⟨hrows, hnext⟩ | ⟨today, chat, intent, last, -, hread, hafter, -, hservice⟩
      · exact h.of_rows hrows hnext
      · obtain ⟨hkeys, hbelow⟩ := Standing.keyed_after hafter ⟨h.keys, h.below⟩
        rw [hservice]
        refine ⟨hkeys, hbelow, fun r hr => ?_⟩
        rcases Standing.mem_rows_after hafter r hr with hr | ⟨e, he, amount, id, user, hamount, rfl⟩
        · exact h.proper r hr
        · exact .inr (Row.proper_ofEntry (Command.described_of_classify hread e he) hamount id user)

/-- A message with an amount that is not finite leaves the rows as they are, whatever else it is to
record. -/
theorem Message.rows_of_infinite {today : Date} {intent : Intent} {e : Entry}
    (hdate : c.localDate m.sentAt = .ok today)
    (hread : Command.classify m.trimmed today = .ok intent) (he : e ∈ intent.entries)
    (hinfinite : e.amount.isFinite = false) :
    (m.handle c plan s).2.service.ledger.rows = s.ledger.rows := by
  rcases rows_of_course (course_of_handle c plan m s) with
    ⟨hrows, -⟩ | ⟨day, chat, read, last, hday, hsame, -, hfinite, -⟩
  · exact hrows
  · obtain rfl : today = day := Except.ok.inj (hdate.symm.trans hday)
    obtain rfl : intent = read := Except.ok.inj (hread.symm.trans hsame)
    exact nomatch (hfinite e he).symm.trans hinfinite

end Messages

/-- However messages and jobs follow each other and whatever fails, rows that have different numbers
below the next one always do, and every row that comes in is an expense with a positive finite
amount, one of the categories and an item.  A message with an amount that is not finite brings in no
row at all, be it the only amount or one of several. -/
theorem wellFormed_after {s : Service} (hkeys : (s.ledger.rows.map Row.id).Nodup)
    (hbelow : ∀ r ∈ s.ledger.rows, r.id < s.ledger.nextId) (es : List Event) :
    (((History.after es s).ledger.rows.map Row.id).Nodup ∧
      ∀ r ∈ (History.after es s).ledger.rows, r.id < (History.after es s).ledger.nextId) ∧
    (∀ r ∈ (History.after es s).ledger.rows, r ∈ s.ledger.rows ∨ r.Proper) ∧
    ∀ (c : Circumstances) (plan : FaultPlan) (m : Message) (today : Date) (intent : Intent),
      c.localDate m.sentAt = .ok today → Command.classify m.trimmed today = .ok intent →
      (∃ e ∈ intent.entries, e.amount.isFinite = false) →
      (m.handle c plan (History.after es s)).2.service.ledger.rows =
        (History.after es s).ledger.rows := by
  have hrun (old : List Row) : ∀ (es : List Event) (s : Service), s.ledger.WellFormed old →
      (History.after es s).ledger.WellFormed old := by
    intro es
    induction es with
    | nil => exact fun _ h => h
    | cons e es ih => exact fun s h => ih (e.happen s).2 (wellFormed_happen h e)
  obtain ⟨hkeys, hbelow, hproper⟩ := hrun s.ledger.rows es s ⟨hkeys, hbelow, fun r hr => .inl hr⟩
  refine ⟨⟨hkeys, hbelow⟩, hproper, ?_⟩
  rintro c plan m today intent hdate hread ⟨e, he, hinfinite⟩
  exact Message.rows_of_infinite hdate hread he hinfinite

/-- A coffee is recorded.  A second one is not, for the bread in the same message has a price of
more than three hundred digits. -/
theorem wellFormed_after_of_long_price :
    let chat : Chat := { user := 1, email := "budi@gmail.com", name := "budi" }
    let s : Service := { chats := Roster.empty.set "62" chat }
    let c : Circumstances := { settings := {}, now := ⟨1792378800⟩ }
    let sends (text : String) : Message := { sender := "62@c.us", text := some text }
    let es : List Event := [.message c .none (sends "kopi 20k")]
    let long := sends (String.ofList ("kopi 20k, roti ".toList ++ List.replicate 309 '9'))
    (∃ r ∈ (History.after es s).ledger.rows, r.Proper) ∧
      (long.handle c .none (History.after es s)).2.service.ledger.rows =
        (History.after es s).ledger.rows := by
  intro chat s c sends es long
  obtain ⟨-, hproper, hinfinite⟩ := wellFormed_after (s := s) List.nodup_nil nofun es
  constructor
  · have hitems : (History.after es s).ledger.rows.map Row.item = ["Kopi"] := by decide +kernel
    obtain ⟨row, hrows, -⟩ := List.map_eq_singleton_iff.mp hitems
    have hrow : row ∈ (History.after es s).ledger.rows := by simp [hrows]
    exact ⟨row, hrow, (hproper row hrow).resolve_left List.not_mem_nil⟩
  · let today : Date := ⟨2026, 10, 19, by decide⟩
    have htrimmed : long.trimmed =
        Text.trim ("kopi 20k, roti ".toList ++ List.replicate 309 '9') :=
      congrArg Text.trim String.toList_ofList
    have hamounts : (Command.classify (Text.trim
        ("kopi 20k, roti ".toList ++ List.replicate 309 '9')) today).toOption.map
          (fun intent => intent.entries.map fun e => e.amount.isFinite) = some [true, false] := by
      decide +kernel
    rw [← htrimmed] at hamounts
    cases hread : Command.classify long.trimmed today with
    | error fault =>
        rw [hread] at hamounts
        exact nomatch hamounts
    | ok intent =>
        rw [hread] at hamounts
        have hlist : (intent.entries.map fun e => e.amount.isFinite) = [true, false] :=
          Option.some.inj hamounts
        have hmem : false ∈ intent.entries.map fun e => e.amount.isFinite := by simp [hlist]
        exact hinfinite c .none long today intent (by decide +kernel) hread (List.mem_map.mp hmem)

end BukuKas
