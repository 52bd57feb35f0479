import BukuKas.Proofs.Reply.Recording

/-!
# What a recording tells

The reply to a recording tells three things that were not said by the sender: the points that were
earned, the level of all points, and a warning when the budget is nearly spent.  The points are
those of the amounts as they were read; level and warning are worked out from the rows as the unit
of work sees them, the new ones among them.  Nothing is written after that, so they can be read off
the draft that is left.

## Main results

* `warning_of_alertLines` : the lines of the warning.
* `told_answer` : the reply to an intent that records, whatever fails on the way.
-/

namespace BukuKas

open Calendar (Date)
open Number (Binary64)

/-! ## The warning -/

/-- The status of the budget of a user, when a period is active. -/
def Draft.budgetStatus (d : Draft) (user : Int) : Option BudgetStatus :=
  (Ledger.activePeriod d.ledger.periods user).map fun period =>
    ⟨period, Ledger.sumExpenses d.rows user period.start period.stop⟩

/-- The warning that a chat gets, if its alert is on and its budget calls for one. -/
def Draft.warning? (threshold : Binary64) (d : Draft) (chat : Chat) : Option String :=
  if chat.alert then Alert.message? threshold (d.budgetStatus chat.user) else none

/-- The lines of a warning below a reply. -/
def Alert.lines : Option String → List String
  | none => []
  | some message => ["", message]

/-- How the reply to an intent that records is put together from the line with the points and the
warning. -/
def Reply.ending? : Intent → Option (String → List String → Reply)
  | .add e => some (recorded e)
  | .addMany es => some (recordedAll es)
  | _ => none

/-- An intent that records is to record one expense or a list of expenses. -/
theorem Intent.of_records {intent : Intent} (h : intent.records = true) :
    (∃ e, intent = .add e) ∨ ∃ es, intent = .addMany es := by
  cases intent with
  | add e => exact .inl ⟨e, rfl⟩
  | addMany es => exact .inr ⟨es, rfl⟩
  | _ => cases h

/-- An intent that records records its entries. -/
theorem Standing.after_of_records {intent : Intent} (h : intent.records = true) (today : Date)
    (st : Standing) : st.after today intent = st.recordAll intent.entries := by
  obtain ⟨e, rfl⟩ | ⟨es, rfl⟩ := Intent.of_records h
  · exact (Option.bind_fun_some _).symm
  · rfl

theorem Entry.gain_of_points {e : Entry} {p : Int} (h : Score.points e.amount = .ok p) :
    e.gain = p := by
  rw [gain, h]
  rfl

namespace Reply

variable {plan : FaultPlan} {roster : Roster Chat} {phone : String} {st : Standing} {o : Occasion}
variable {d after : Desk} {reply : Reply}

/-- The status of a budget is read off the draft. -/
theorem status_of_run {user : Int} {status : Option BudgetStatus}
    (h : (budgetStatus user).run plan phone d = (.ok status, after)) :
    status = d.draft.budgetStatus user := by
  obtain ⟨period, d₁, hperiod, h⟩ := Work.ok_of_run_bind h
  rw [Work.run_query] at hperiod
  have hactive : Ledger.activePeriod d.draft.ledger.periods user = period := by
    injection (Desk.perform_of_ask (congrArg Prod.fst hperiod)).1
  have hdraft : d₁.draft = d.draft := by
    have hread := Desk.draft_ask_of_reads plan d (q := .activePeriod user) rfl
    rwa [hperiod] at hread
  unfold Draft.budgetStatus
  rw [hactive]
  cases period with
  | none => exact (Except.ok.inj (Prod.mk.inj h).1).symm
  | some period =>
      obtain ⟨spent, d₂, hspent, h⟩ := Work.ok_of_run_bind h
      rw [Work.run_query] at hspent
      have hsum : Ledger.sumExpenses d₁.draft.rows user period.start period.stop = spent := by
        injection (Desk.perform_of_ask (congrArg Prod.fst hspent)).1
      rw [Option.map_some, ← hdraft, hsum]
      exact (Except.ok.inj (Prod.mk.inj h).1).symm

/-- When no call is made to fail, the status of a budget is told. -/
theorem run_budgetStatus (user : Int) (phone : String) (d : Desk) :
    ∃ after, (budgetStatus user).run .none phone d = (.ok (d.draft.budgetStatus user), after) := by
  have hquery : (Work.query (.activePeriod user)).run .none phone d =
      (.ok (Ledger.activePeriod d.draft.ledger.periods user),
        (d.ask .none (.activePeriod user)).2) := rfl
  unfold budgetStatus Draft.budgetStatus
  rw [Work.run_bind_of_ok hquery]
  cases Ledger.activePeriod d.draft.ledger.periods user with
  | none => exact ⟨_, rfl⟩
  | some period => exact ⟨_, rfl⟩

/-- The warning is read off the draft, and the draft stays. -/
theorem warning_of_alertLines {threshold : Binary64} {chat : Chat} {warning : List String}
    (h : (alertLines threshold chat).run plan phone d = (.ok warning, after)) :
    warning = Alert.lines (d.draft.warning? threshold chat) ∧ after.draft = d.draft := by
  have hkeeps := Work.keeps_mono (keeps_alertLines threshold chat)
    (Rule.sums_within_reading chat.user)
    fun _ h => h
  have hdraft := (Work.run_of_reading hkeeps plan phone d).1
  rw [h] at hdraft
  refine ⟨?_, hdraft⟩
  unfold alertLines at h
  unfold Draft.warning?
  split at h
  · rename_i halert
    obtain ⟨status, d₁, hstatus, h⟩ := Work.ok_of_run_bind h
    rw [if_pos halert, ← status_of_run hstatus]
    cases hmessage : Alert.message? threshold status with
    | none =>
        rw [hmessage] at h
        exact (Except.ok.inj (Prod.mk.inj h).1).symm
    | some message =>
        rw [hmessage] at h
        exact (Except.ok.inj (Prod.mk.inj h).1).symm
  · rename_i halert
    rw [if_neg halert]
    exact (Except.ok.inj (Prod.mk.inj h).1).symm

/-! ## Replies to recordings -/

/-- The end of a recording tells the points that are handed to it, the level of all points, and the
warning. -/
theorem told_ending {finish : String → List String → Reply} {earned : Int} {chat : Chat}
    (hd : d.Shows roster phone st)
    (h : (do
      let experience ← experienceLine chat.user earned
      let warning ← alertLines o.threshold chat
      return finish experience warning : Work Reply).run plan phone d = (.ok reply, after)) :
    ∃ points, Score.totalPoints (Ledger.amounts st.rows chat.user) = .ok points ∧
      reply = finish (experienceText earned points)
        (Alert.lines (after.draft.warning? o.threshold chat)) := by
  obtain ⟨experience, d₁, hexperience, h⟩ := Work.ok_of_run_bind h
  obtain ⟨warning, d₂, hwarning, h⟩ := Work.ok_of_run_bind h
  obtain ⟨hlines, hdraft⟩ := warning_of_alertLines hwarning
  obtain ⟨amounts, d₃, hamounts, hexperience⟩ := Work.ok_of_run_bind hexperience
  obtain ⟨points, d₄, hpoints, hexperience⟩ := Work.ok_of_run_bind hexperience
  rw [Work.run_query] at hamounts
  have hanswer := (Desk.perform_of_ask (congrArg Prod.fst hamounts)).1
  have hsame : Ledger.amounts d.draft.rows chat.user = amounts := by injection hanswer
  rw [Work.run_ofExcept, ← hsame, hd.rows] at hpoints
  obtain rfl : experienceText earned points = experience :=
    Except.ok.inj (Prod.mk.inj hexperience).1
  obtain ⟨hreply, rfl⟩ := Prod.mk.inj h
  refine ⟨points, (Prod.mk.inj hpoints).1, ?_⟩
  rw [hdraft, ← hlines]
  exact (Except.ok.inj hreply).symm

/-- Recordings one after the other change nothing of the chat but its last recording, and give the
points of all entries. -/
theorem earned_of_addAll {es : List Entry} {chat : Chat} {earned : Int} {result : Chat × Int}
    (h : (addAll chat earned es).run plan phone d = (.ok result, after)) :
    (result.1.user = chat.user ∧ result.1.alert = chat.alert) ∧
      result.2 = earned + (es.map Entry.gain).sum := by
  induction es generalizing chat earned d with
  | nil =>
      obtain rfl := Except.ok.inj (Prod.mk.inj h).1
      exact ⟨⟨rfl, rfl⟩, (Int.add_zero earned).symm⟩
  | cons e es ih =>
      obtain ⟨recording, d₁, -, h⟩ := Work.ok_of_run_bind h
      obtain ⟨done, d₂, -, h⟩ := Work.ok_of_run_bind h
      obtain ⟨points, d₃, hpoints, h⟩ := Work.ok_of_run_bind h
      rw [Work.run_ofExcept] at hpoints
      obtain ⟨hchat, hearned⟩ := ih h
      refine ⟨hchat, ?_⟩
      rw [hearned, List.map_cons, List.sum_cons, Entry.gain_of_points (Prod.mk.inj hpoints).1,
        Int.add_assoc]

/-- The reply to one expense. -/
theorem told_add {e : Entry} (hd : d.Shows roster phone st)
    (h : (add o st.chat e).run plan phone d = (.ok reply, after)) :
    ∃ last points, st.record e = some last ∧
      Score.totalPoints (Ledger.amounts last.rows st.chat.user) = .ok points ∧
      reply = recorded e (experienceText e.gain points)
        (Alert.lines (after.draft.warning? o.threshold st.chat)) := by
  obtain ⟨recording, d₁, hinsert, h⟩ := Work.ok_of_run_bind h
  obtain ⟨done, d₂, hput, h⟩ := Work.ok_of_run_bind h
  obtain ⟨earned, d₃, hearned, h⟩ := Work.ok_of_run_bind h
  obtain ⟨last, hrecord, -, hd₃⟩ := shows_record hd hinsert hput hearned
  obtain ⟨points, hpoints, htold⟩ := told_ending hd₃ h
  rw [Work.run_ofExcept] at hearned
  rw [Entry.gain_of_points (Prod.mk.inj hearned).1]
  exact ⟨last, points, hrecord, hpoints, htold⟩

/-- The reply to a list of expenses. -/
theorem told_addMany {es : List Entry} (hd : d.Shows roster phone st)
    (h : (addMany o st.chat es).run plan phone d = (.ok reply, after)) :
    ∃ last points, st.recordAll es = some last ∧
      Score.totalPoints (Ledger.amounts last.rows st.chat.user) = .ok points ∧
      reply = recordedAll es (experienceText (es.map Entry.gain).sum points)
        (Alert.lines (after.draft.warning? o.threshold st.chat)) := by
  obtain ⟨⟨chat, earned⟩, d₁, hall, h⟩ := Work.ok_of_run_bind h
  obtain ⟨last, hlast, hd₁⟩ := shows_addAll hd hall
  obtain ⟨points, hpoints, htold⟩ := told_ending hd₁ h
  obtain ⟨⟨huser, halert⟩, hearned⟩ := earned_of_addAll hall
  rw [Int.zero_add] at hearned
  dsimp only at huser halert hearned
  have hwarning : after.draft.warning? o.threshold chat =
      after.draft.warning? o.threshold st.chat := by
    rw [Draft.warning?, huser, halert, Draft.warning?]
  rw [huser] at hpoints
  rw [hwarning, hearned] at htold
  exact ⟨last, points, hlast, hpoints, htold⟩

/-- Whatever fails on the way, the answer to a recording tells the points of the entries as they
were read, the level of the points after it, and the warning that the draft after it calls for. -/
theorem told_answer {intent : Intent} (hrecords : intent.records = true)
    (hd : d.Shows roster phone st)
    (h : (answer o (some st.chat) intent).run plan phone d = (.ok reply, after)) :
    ∃ last points finish, st.recordAll intent.entries = some last ∧
      Score.totalPoints (Ledger.amounts last.rows st.chat.user) = .ok points ∧
      ending? intent = some finish ∧
      reply = finish (experienceText (intent.entries.map Entry.gain).sum points)
        (Alert.lines (after.draft.warning? o.threshold st.chat)) := by
  obtain ⟨e, rfl⟩ | ⟨es, rfl⟩ := Intent.of_records hrecords
  · obtain ⟨last, points, hrecord, hpoints, htold⟩ := told_add hd h
    rw [← Standing.after_of_records rfl o.today st, Intent.entries, List.map_singleton,
      List.sum_singleton]
    exact ⟨last, points, _, hrecord, hpoints, rfl, htold⟩
  · obtain ⟨last, points, hrecord, hpoints, htold⟩ := told_addMany hd h
    exact ⟨last, points, _, hrecord, hpoints, rfl, htold⟩

end Reply

end BukuKas
