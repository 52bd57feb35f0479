import BukuKas.Calendar.Month
import BukuKas.Proofs.Job.Isolation
import BukuKas.Proofs.Ledger.Grouping

/-!
# Reminders over a month

The job for reminders asks nothing of the ledger: what it sends on a date is read off the chats, so
no fault but one of the gateway keeps a text back.  A chat gets one text that lists the reminders
with the day of that date, in the order in which the chat has them, or it is skipped.

A reminder has one day, and a month has each of its days once.  So over a month a chat is told of
each reminder whose day the month has, and of each one once, whatever days and names they share.

## Main results

* `Date.map_day_ofMonth` : the days of a month.
* `run_reminders` : one run of the job, whatever calls fail.
* `run_month` : the runs of a month.
-/

namespace BukuKas

open Calendar (Date daysInMonth)
open Number (Binary64)

/-! ## The dates of a month -/

namespace Calendar.Date

/-- The dates of a month, in their order. -/
def ofMonth (year month : Nat) : List Date :=
  (List.range (daysInMonth year month)).filterMap fun past => ofParts? year month (past + 1)

theorem mem_ofMonth {year month : Nat} {d : Date} :
    d ∈ ofMonth year month ↔ d.year = year ∧ d.month = month := by
  unfold ofMonth
  rw [List.mem_filterMap]
  constructor
  · rintro ⟨past, -, hpast⟩
    unfold ofParts? at hpast
    split at hpast
    · rw [← Option.some.inj hpast]
      exact ⟨rfl, rfl⟩
    · exact absurd hpast (by simp)
  · rintro ⟨rfl, rfl⟩
    obtain ⟨-, -, -, -, hday, hlast⟩ := d.isDate
    refine ⟨d.day - 1, List.mem_range.mpr (by omega), ?_⟩
    rw [Nat.sub_add_cancel hday, ofParts?_parts]

/-- A month has each of its days once. -/
theorem map_day_ofMonth {year month : Nat} (hyear : 1 ≤ year ∧ year ≤ 9999)
    (hmonth : 1 ≤ month ∧ month ≤ 12) :
    (ofMonth year month).map day = List.range' 1 (daysInMonth year month) := by
  have hdate : ∀ past ∈ List.range (daysInMonth year month),
      (ofParts? year month (past + 1)).map day = some (1 + past) := by
    intro past hpast
    rw [List.mem_range] at hpast
    have hvalid : IsDate year month (past + 1) :=
      ⟨hyear.1, hyear.2, hmonth.1, hmonth.2, by omega, by omega⟩
    rw [ofParts?, dif_pos hvalid, Nat.add_comm 1 past]
    rfl
  rw [ofMonth, List.map_filterMap, List.filterMap_congr hdate, List.filterMap_eq_map',
    List.range'_eq_map_range]

end Calendar.Date

namespace Job

variable (threshold : Binary64) (today : Date) (plan : FaultPlan)
    (gateway : String → Gateway.Answer)

/-! ## One run -/

/-- The text that lists reminders. -/
def listing (due : List Reminder) : String :=
  Reply.joinLines (["⏰ *Pengingat Hari Ini*", ""] ++ due.map fun reminder => "• " ++ reminder.name)

theorem reminderNotice_eq (chat : Chat) : reminderNotice chat today =
    if dueReminders chat today = [] then none else some (listing (dueReminders chat today)) := by
  unfold reminderNotice
  split
  · rename_i hnone
    rw [if_pos hnone]
  · rename_i due hsome
    rw [if_neg hsome]
    rfl

/-- The job for reminders depends on no call that might fail. -/
theorem run_runOver_reminders (chats : List (String × Chat)) (d : Desk)
    (hworks : ∀ phone, Gateway.refuses (gateway phone) = false) :
    (reminders.runOver threshold today gateway chats).run plan "" d =
      (.ok (chats.map fun item => Outcome.of item.1 false (reminderNotice item.2 today)), d) := by
  induction chats with
  | nil => rfl
  | cons item rest ih =>
      obtain ⟨phone, chat⟩ := item
      have hnotice : (reminders.notice threshold today chat).run plan "" d =
          (.ok (reminderNotice chat today), d) := rfl
      have hfirst : (reminders.serve threshold today gateway phone chat).run plan "" d =
          (.ok (Outcome.of phone false (reminderNotice chat today)), d) := by
        rw [run_serve, hnotice, hworks]
        cases reminderNotice chat today <;> rfl
      rw [runOver, Work.run_bind_of_ok hfirst, Work.run_bind_of_ok ih]
      rfl

/-- What the job for reminders does on a date: a chat with reminders that are due gets one text,
which lists them, and every other chat is skipped. -/
structure Run.Reminds (r : Run) (chats : Roster Chat) (today : Date) : Prop where
  accounts : r.Accounts chats
  received : ∀ phone, r.received phone = (chats.get? phone).bind fun chat =>
    if dueReminders chat today = [] then none else some (listing (dueReminders chat today))
  skipped : r.summary.skipped = chats.items.countP fun item => (dueReminders item.2 today).isEmpty
  failed : r.summary.failed = 0

/-- Whatever calls fail, a run for reminders tells every chat of those that are due. -/
theorem run_reminders (s : Service) (hworks : ∀ phone, Gateway.refuses (gateway phone) = false) :
    ∃ r, (reminders.run threshold plan today gateway s).1 = .ok r ∧ r.Reminds s.chats today := by
  have hrun := run_runOver_reminders threshold today plan gateway s.chats.items s.desk hworks
  refine ⟨_, run_eq threshold today plan gateway reminders (congrArg Prod.fst hrun), ?_, ?_, ?_, ?_⟩
  · obtain ⟨outcomes, after, hsame, hphones⟩ :=
      exists_outcomes threshold today plan gateway reminders s.chats.items s.desk
    obtain rfl := Except.ok.inj (congrArg Prod.fst (hsame.symm.trans hrun))
    exact accounts_of_outcomes reminders hphones
  · intro phone
    rw [(isolates_of reminders (reminderNotice · today) (fun _ => false) s.chats).received phone]
    simp only [reminderNotice_eq]
    rfl
  · show List.count _ _ = _
    rw [skipped_of (fun _ => false) (reminderNotice · today)]
    apply List.countP_congr
    intro item _
    simp only [reminderNotice_eq]
    split <;> simp_all
  · show List.count _ _ = _
    rw [failed_of (fun _ => false) (reminderNotice · today)]
    simp

/-! ## A month of runs -/

/-- Whether the day of a reminder is that of one of the dates. -/
def hasDay (dates : List Date) (reminder : Reminder) : Bool :=
  dates.any fun d => reminder.day == (d.day : Int)

/-- Over dates with different days, a chat is told of its reminders with one of the days, and of
each once. -/
theorem flatMap_dueReminders (chat : Chat) {dates : List Date} (h : (dates.map Date.day).Nodup) :
    (dates.flatMap (dueReminders chat)).Perm (chat.reminders.filter (hasDay dates)) := by
  have hkeys : (dates.map fun d => (d.day : Int)).Nodup := by
    have hcast := h.map (f := Int.ofNat) fun _ _ => Int.ofNat.inj
    rwa [List.map_map] at hcast
  have hparts := Ledger.perm_flatMap_filter Reminder.day chat.reminders hkeys
  rw [List.flatMap_map] at hparts
  have hall :
      (chat.reminders.filter fun reminder =>
        decide (reminder.day ∈ dates.map fun d => (d.day : Int))) =
      chat.reminders.filter (hasDay dates) := by
    refine List.filter_congr fun reminder _ => ?_
    rw [Bool.eq_iff_iff, decide_eq_true_iff, List.mem_map, hasDay, List.any_eq_true]
    simp only [beq_iff_eq]
    exact exists_congr fun d => and_congr_right fun _ => eq_comm
  rwa [hall] at hparts

theorem hasDay_ofMonth {year month : Nat} (hyear : 1 ≤ year ∧ year ≤ 9999)
    (hmonth : 1 ≤ month ∧ month ≤ 12)
    (reminder : Reminder) : hasDay (Date.ofMonth year month) reminder =
      decide (1 ≤ reminder.day ∧ reminder.day ≤ (daysInMonth year month : Int)) := by
  rw [Bool.eq_iff_iff, hasDay, List.any_eq_true, decide_eq_true_iff]
  constructor
  · rintro ⟨d, hd, hsame⟩
    obtain ⟨rfl, rfl⟩ := Date.mem_ofMonth.mp hd
    obtain ⟨-, -, -, -, hday, hlast⟩ := d.isDate
    rw [beq_iff_eq] at hsame
    omega
  · rintro ⟨hday, hlast⟩
    have hvalid : Calendar.IsDate year month reminder.day.toNat :=
      ⟨hyear.1, hyear.2, hmonth.1, hmonth.2, by omega, by omega⟩
    refine ⟨⟨year, month, reminder.day.toNat, hvalid⟩, Date.mem_ofMonth.mpr ⟨rfl, rfl⟩, ?_⟩
    rw [beq_iff_eq]
    exact (Int.toNat_of_nonneg (by omega)).symm

/-- When the chats stay the same for a month and the gateway works, the job for reminders, run once
on each date of the month, tells each chat once of each of its reminders whose day the month has,
and of no other.  On each date a chat with reminders that are due gets one text with them in their
order, the others are skipped, and nothing changes, whatever else the service does meanwhile. -/
theorem run_month {year month : Nat} (hyear : 1 ≤ year ∧ year ≤ 9999)
    (hmonth : 1 ≤ month ∧ month ≤ 12) {chats : Roster Chat} {service : Date → Service}
    (hchats : ∀ today ∈ Date.ofMonth year month, (service today).chats = chats)
    {gateway : Date → String → Gateway.Answer}
    (hworks : ∀ today ∈ Date.ofMonth year month, ∀ phone,
      Gateway.refuses (gateway today phone) = false)
    (threshold : Date → Binary64) (plan : Date → FaultPlan) :
    (∀ today ∈ Date.ofMonth year month, ∃ r,
      (reminders.run (threshold today) (plan today) today (gateway today) (service today)).1 =
        .ok r ∧
        r.Reminds chats today ∧
        (reminders.run (threshold today) (plan today) today (gateway today)
          (service today)).2.service =
          service today) ∧
    ∀ item ∈ chats.items, ((Date.ofMonth year month).flatMap (dueReminders item.2)).Perm
      (item.2.reminders.filter fun reminder => 1 ≤ reminder.day ∧
        reminder.day ≤ (daysInMonth year month : Int)) := by
  constructor
  · intro today htoday
    obtain ⟨r, hrun, hreminds⟩ :=
      run_reminders (threshold today) today (plan today) (gateway today) (service today)
        (hworks today htoday)
    exact ⟨r, hrun, hchats today htoday ▸ hreminds, service_run _ _ _ _ _ _⟩
  · intro item _
    have hdays : ((Date.ofMonth year month).map Date.day).Nodup := by
      rw [Date.map_day_ofMonth hyear hmonth]
      exact List.nodup_range'
    have hdue := flatMap_dueReminders item.2 hdays
    rwa [List.filter_congr fun reminder _ => hasDay_ofMonth hyear hmonth reminder] at hdue

/-- In a February reminders of the fifth, of which one is written twice, and of the last day are
sent, and one of the thirtieth is not. -/
theorem run_month_of_february :
    let kept : List Reminder := [⟨"Sewa", 28⟩, ⟨"Air", 5⟩, ⟨"Arisan", 30⟩, ⟨"Air", 5⟩]
    let chat : Chat := { user := 1, email := "ani@gmail.com", name := "ani", reminders := kept }
    let service : Date → Service := fun _ => { chats := Roster.empty.set "61" chat }
    let gateway : Date → String → Gateway.Answer := fun _ _ => .status 200
    let fifth : Date := ⟨2026, 2, 5, by decide⟩
    (∃ r, (reminders.run 1 .none fifth (gateway fifth) (service fifth)).1 = .ok r ∧
      r.received "61" = some (listing [⟨"Air", 5⟩, ⟨"Air", 5⟩])) ∧
    ((Date.ofMonth 2026 2).flatMap (dueReminders chat)).Perm [⟨"Sewa", 28⟩, ⟨"Air", 5⟩,
      ⟨"Air", 5⟩] := by
  intro kept chat service gateway fifth
  have hsame : ∀ today ∈ Date.ofMonth 2026 2, (service today).chats = Roster.empty.set "61" chat :=
    fun _ _ => rfl
  have hworks : ∀ today ∈ Date.ofMonth 2026 2, ∀ phone,
      Gateway.refuses (gateway today phone) = false :=
    fun _ _ _ => rfl
  obtain ⟨hruns, htold⟩ :=
    run_month (by decide) (by decide) hsame hworks (fun _ => 1) fun _ => .none
  constructor
  · obtain ⟨r, hrun, hreminds, -⟩ := hruns fifth (Date.mem_ofMonth.mpr ⟨rfl, rfl⟩)
    refine ⟨r, hrun, ?_⟩
    rw [hreminds.received]
    rfl
  · exact htold ("61", chat) (by decide)

end Job

end BukuKas
