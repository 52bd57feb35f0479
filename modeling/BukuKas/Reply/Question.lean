import BukuKas.Calendar.Month
import BukuKas.Reply.Recording
import BukuKas.Score.Challenge
import BukuKas.Score.Pace

/-!
# Questions

The answers that only read: what is left of the budget, what was spent and on what, today, the last
seven days, this month beside the last one, where the period is heading, everything at once, and how
the budget and the day are doing.
-/

namespace BukuKas.Reply

open Calendar (Date)
open Number (Binary64 roundedText)
open Report (Tally Chart)

/-- The reply when a budget is asked for and no period is active. -/
def noPeriod : Reply := ofText "❌ Belum ada periode budget aktif."

/-- The date so many days later. -/
def shift (d : Date) (days : Int) : Work Date :=
  Work.ofExcept (match d.addDays? days with
    | some e => .ok e
    | none => .error .dateOutOfRange)

/-- A span of days as text. -/
def spanText (start stop : Date) : String := start.text ++ " s/d " ++ stop.text

/-- The whole number nearest to a double, for a text. -/
def wholePercent (x : Binary64) : Except Fault Int :=
  match x.round? with
  | some n => .ok n
  | none => .error (if x = .nan then .notANumber else .infiniteNumber)

/-- The line with what may be spent on each day that is left, if anything may. -/
def perDayLine (label : String) (status : BudgetStatus) (daysLeft : Int) : List String :=
  if 0 < daysLeft && 0 < status.remaining then
    ["💡 " ++ label ++ " per hari: " ++ Money.text (status.remaining / Binary64.ofInt daysLeft)]
  else []

/-- What is left of the budget. -/
def remaining (o : Occasion) (chat : Chat) : Work Reply := do
  match ← budgetStatus chat.user with
  | none => return noPeriod
  | some status =>
    let percent ← Work.ofExcept (wholePercent (status.usedRatio * 100))
    return ofLines ([
      "💵 *Sisa Budget*",
      "",
      "📅 Periode: " ++ spanText status.period.start status.period.stop,
      "Budget: " ++ Money.text status.budget,
      "Terpakai: " ++ Money.text status.spent ++ " (" ++ toString percent ++ "%)",
      Progress.bar (.ofInt percent),
      divider,
      "*Sisa: " ++ Money.text status.remaining ++ "*"] ++
      perDayLine "Jatah aman" status (status.period.daysLeft o.today))

/-- The span of a report, that of the active period or of the month, and what it is called. -/
def reportSpan (o : Occasion) (period : Option Period) : Date × Date :=
  match period with
  | some p => (p.start, p.stop)
  | none => o.today.monthBounds

/-- The number of categories that are listed as the largest. -/
def topCategories : Nat := 5

/-- What was spent, and on what. -/
def spending (o : Occasion) (chat : Chat) : Work Reply := do
  let period ← Work.query (.activePeriod chat.user)
  let (start, stop) := reportSpan o period
  let label := if period.isSome then "📅 Periode: " else "📅 Bulan ini: "
  let totals : Tally ← Work.query (.categoryTotals chat.user start stop)
  let total := Tally.total totals
  let top := ((Tally.rank totals).take topCategories).map fun sum =>
    "• " ++ sum.1 ++ ": " ++ Money.text sum.2
  return {
    text := some (joinLines (
      ["📊 *Total Pengeluaran*", "", label ++ spanText start stop, "",
        "*" ++ Money.text total ++ "*"] ++
      (if totals.isEmpty then [] else ["", "Top Kategori:"] ++ top)))
    attachment :=
      if 0 < total then
        attach o .chart ("pengeluaran-" ++ o.today.text ++ ".png")
          (.ok (.chart (Chart.ofTally "Pengeluaran per Kategori" totals)))
      else none }

/-- The list of the expenses of a day, under the numbers by which they can be removed. -/
def dayList (day : Date) (rows : List Row) : Reply :=
  if rows.isEmpty then ofText "📋 *Transaksi Hari Ini*\n\n_Belum ada transaksi hari ini._"
  else
    ofLines (
      ["📋 *Transaksi Hari Ini*", "📅 " ++ day.text, ""] ++
      numbered (fun n (r : Row) => itemLines n r.item r.amount.toDouble r.category) rows ++
      ["", divider,
        "*Total: " ++ Money.text (Binary64.sum (rows.map fun r => r.amount.toDouble)) ++ "*",
        "_Hapus dengan !hapus <nomor>_"])

/-- The expenses of today. -/
def today (o : Occasion) (chat : Chat) : Work Reply := do
  let rows ← Work.query (.listToday chat.user o.today)
  return dayList o.today rows

/-- The sum under a date, zero when there is none. -/
def sumOn (daily : List (Date × Binary64)) (d : Date) : Binary64 :=
  ((daily.find? fun sum => sum.1 == d).map Prod.snd).getD 0

/-- The largest sum, the first of several that are equal. -/
def largest? : Tally → Option (String × Binary64)
  | [] => none
  | first :: rest => some (rest.foldl (fun best sum => if best.2 < sum.2 then sum else best) first)

/-- The days of a week, the first one given. -/
def weekFrom (start : Date) : List Date :=
  (List.range 7).filterMap fun (n : Nat) => start.addDays? n

/-- The last seven days, today being the last. -/
def weekly (o : Occasion) (chat : Chat) : Work Reply := do
  let start ← shift o.today (-6)
  let daily : List (Date × Binary64) ← Work.query (.dailyTotals chat.user start o.today)
  let totals : Tally ← Work.query (.categoryTotals chat.user start o.today)
  let total := Binary64.sum (daily.map Prod.snd)
  return ofLines (
    ["📆 *Ringkasan 7 Hari Terakhir*", spanText start o.today, ""] ++
    (weekFrom start).map (fun d => "• " ++ d.shortText ++ ": " ++ Money.text (sumOn daily d)) ++
    ["", divider, "*Total: " ++ Money.text total ++ "*",
      "Rata-rata/hari: " ++ Money.text (total / 7)] ++
    (match largest? totals with
      | some (category, sum) => ["Terbesar: " ++ category ++ " (" ++ Money.text sum ++ ")"]
      | none => []))

/-- The windows of a comparison of months. -/
structure MonthWindows where
  /-- The first day of this month. -/
  thisStart : Date
  /-- The first day of the month before. -/
  lastStart : Date
  /-- The day of the month before that corresponds to today. -/
  lastSame : Date
  /-- The last day of the month before. -/
  lastStop : Date
  deriving DecidableEq

/-- The windows of the month of a date, when there is a month before. -/
def monthWindows? (d : Date) : Option MonthWindows :=
  let thisStart := d.firstOfMonth
  (thisStart.addDays? (-1)).map fun lastStop =>
    let lastStart := lastStop.firstOfMonth
    ⟨thisStart, lastStart, lastStart.clipDay d.day, lastStop⟩

/-- This month up to today beside the same days of the month before. -/
def comparison (o : Occasion) (chat : Chat) : Work Reply := do
  let w ← Work.ofExcept (match monthWindows? o.today with
    | some w => .ok w
    | none => .error .dateOutOfRange)
  let now : Binary64 ← Work.query (.sumExpenses chat.user w.thisStart o.today)
  let before : Binary64 ← Work.query (.sumExpenses chat.user w.lastStart w.lastSame)
  let full : Binary64 ← Work.query (.sumExpenses chat.user w.lastStart w.lastStop)
  let verdict := match Progress.change? now before with
    | none => "Belum ada data bulan lalu untuk dibandingkan."
    | some change =>
      if 0 < change then
        "🔺 Naik " ++ roundedText change ++ "% dibanding periode yang sama bulan lalu."
      else if change < 0 then
        "🔻 Turun " ++ roundedText change.abs ++ "% dibanding periode yang sama bulan lalu. Mantap!"
      else "➖ Sama persis dengan bulan lalu."
  return ofLines [
    "📈 *Perbandingan Bulanan*",
    "",
    "Bulan ini (1-" ++ toString o.today.day ++ "): " ++ Money.text now,
    "Bulan lalu (1-" ++ toString w.lastSame.day ++ "): " ++ Money.text before,
    "Bulan lalu (penuh): " ++ Money.text full,
    divider,
    verdict]

/-- Where the period is heading. -/
def prediction (o : Occasion) (chat : Chat) : Work Reply := do
  match ← budgetStatus chat.user with
  | none => return noPeriod
  | some status =>
    let elapsed := status.period.elapsed o.today
    if elapsed = 0 then Work.fail .divisionByZero
    else
      let average := status.spent / Binary64.ofInt elapsed
      let projected := average * Binary64.ofInt status.period.totalDays
      let verdict :=
        if status.budget < projected then
          "⚠️ Diperkirakan lebih " ++ Money.text (projected - status.budget) ++ "."
        else "✅ Diperkirakan hemat " ++ Money.text (status.budget - projected) ++ "."
      return ofLines ([
        "🔮 *Prediksi Pengeluaran*",
        "",
        "Terpakai: " ++ Money.text status.spent ++ " dalam " ++ toString elapsed ++ " hari",
        "Rata-rata/hari: " ++ Money.text average,
        "Perkiraan akhir periode: *" ++ Money.text projected ++ "*",
        "Budget: " ++ Money.text status.budget,
        divider,
        verdict] ++
        perDayLine "Batas aman" status (status.period.daysLeft o.today))

/-- The lines of a recap about the budget of a period. -/
def recapBudget (o : Occasion) (spent : Binary64) : Option Period → Except Fault (List String)
  | none => .ok []
  | some p =>
    let plain := ["Budget: " ++ Money.text p.budget, "Sisa: " ++ Money.text (p.budget - spent)]
    if 0 < p.budget then
      match Score.Health.ofBudget spent p.budget (p.daysLeft o.today) p.totalDays with
      | .ok health =>
        .ok (plain ++ ["Kesehatan budget: *" ++ health.grade ++ "* (" ++ health.label ++ ")"])
      | .error fault => .error fault
    else .ok plain

/-- The share of a sum in percent, zero when nothing was spent. -/
def share (sum spent : Binary64) : Binary64 :=
  if spent = 0 then 0 else sum / spent * 100

/-- The lines of a recap about the categories. -/
def recapCategories (tally : Tally) (spent : Binary64) : List String :=
  if tally.isEmpty then []
  else
    ["", "Per kategori:"] ++ (Tally.rank tally).map fun sum =>
      "• " ++ sum.1 ++ ": " ++ Money.text sum.2 ++ " (" ++ roundedText (share sum.2 spent) ++ "%)"

/-- Everything at once, with a workbook when anything was spent. -/
def recap (o : Occasion) (chat : Chat) : Work Reply := do
  let period ← Work.query (.activePeriod chat.user)
  let (start, stop) := reportSpan o period
  let rows : List Row ← Work.query (.listTransactions chat.user start stop)
  let entries := rows.map Row.entry
  let tally := Tally.ofEntries entries
  let spent := Tally.total tally
  let amounts ← Work.query (.expenseAmounts chat.user)
  let points ← Work.ofExcept (Score.totalPoints amounts)
  let level := Score.Level.ofPoints points
  let budget ← Work.ofExcept (recapBudget o spent period)
  let next := match level.missing with
    | some n => if n = 0 then "" else ", " ++ toString n ++ " XP lagi ke level berikutnya"
    | none => ""
  return {
    text := some (joinLines (
      ["🧾 *Rekap Lengkap*", "📅 " ++ spanText start stop, "",
        "Transaksi: " ++ toString rows.length, "Total: *" ++ Money.text spent ++ "*"] ++
      budget ++ recapCategories tally spent ++
      ["", "⭐ Level " ++ toString level.number ++ " (" ++ level.name ++ ") • " ++
        toString level.points ++ " XP" ++ next] ++
      (if rows.isEmpty then [] else ["", "📎 File Excel terlampir."])))
    attachment :=
      if rows.isEmpty then none
      else
        attach o .workbook ("rekap-" ++ start.text ++ "-" ++ stop.text ++ ".xlsx")
          ((Report.Workbook.build ("Rekap " ++ start.text ++ " - " ++ stop.text) entries).map
            .workbook) }

/-- The challenge of the day. -/
def challenge (o : Occasion) : Reply :=
  ofText ("🎯 *Tantangan Hari Ini* (" ++ o.today.text ++ ")\n\n" ++ Score.Challenge.ofDate o.today)

/-- How the budget is doing. -/
def health (o : Occasion) (chat : Chat) : Work Reply := do
  match ← budgetStatus chat.user with
  | none => return noPeriod
  | some status =>
    if status.budget ≤ 0 then return noPeriod
    else
      let daysLeft := status.period.daysLeft o.today
      let grade ← Work.ofExcept
        (Score.Health.ofBudget status.spent status.budget daysLeft status.period.totalDays)
      return ofLines ([
        "🩺 *Kesehatan Budget*",
        "",
        "Nilai: *" ++ grade.grade ++ "* (" ++ grade.label ++ ")",
        "Terpakai: " ++ roundedText (status.usedRatio * 100) ++ "% budget",
        "Sisa waktu: " ++ toString daysLeft ++ " dari " ++ toString status.period.totalDays ++
          " hari"] ++
        (if grade.grade = "D" || grade.grade = "F" then
          ["", "💡 Kurangi pengeluaran non-pokok beberapa hari ke depan."]
        else []))

/-- The number of days before a day that its spending is compared with. -/
def moodDays : Nat := 7

/-- The spending of a day, the average of the days before, and the mood that follows. -/
def moodOf (user : Int) (day : Date) : Work (Binary64 × Binary64 × Score.Mood) := do
  let spent : Binary64 ← Work.query (.sumExpenses user day day)
  let start ← shift day (-moodDays)
  let stop ← shift day (-1)
  let before : Binary64 ← Work.query (.sumExpenses user start stop)
  let average := before / Binary64.ofNat moodDays
  return (spent, average, Score.Mood.ofDay spent average)

/-- The mood of the day. -/
def mood (o : Occasion) (chat : Chat) : Work Reply := do
  let (spent, average, mood) ← moodOf chat.user o.today
  return ofText (mood.face ++ " *Mood Belanja: " ++ mood.label ++ "*\n\n" ++
    "Hari ini: " ++ Money.text spent ++ "\n" ++
    "Rata-rata " ++ toString moodDays ++ " hari: " ++ Money.text average)

end BukuKas.Reply
