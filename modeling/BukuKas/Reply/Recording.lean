import BukuKas.Reply.Basic

/-!
# Recording and taking back

The answers that write to the ledger: one expense, a list of expenses, the last recording taken
back, and a row of today removed by its number in the list.
-/

namespace BukuKas.Reply

open Number (Binary64)

/-- The reply to the recording of one expense. -/
def recorded (e : Entry) (experience : String) (warning : List String) : Reply :=
  ofLines ([
    "✅ *Tercatat!*",
    "",
    "📝 " ++ e.item,
    "💰 " ++ Money.text e.amount,
    "🏷️ " ++ e.category,
    "📅 " ++ e.date.text,
    "",
    experience] ++ warning)

/-- Records one expense. -/
def add (o : Occasion) (chat : Chat) (e : Entry) : Work Reply := do
  let recording ← Work.query (.insert chat.user e)
  let chat := { chat with last := some recording.id }
  Work.put chat
  let earned ← Work.ofExcept (Score.points e.amount)
  let experience ← experienceLine chat.user earned
  let warning ← alertLines o.threshold chat
  return recorded e experience warning

/-- Records expenses one after the other, and gives the chat after the last one and the points that
all of them earn. -/
def addAll (chat : Chat) (earned : Int) : List Entry → Work (Chat × Int)
  | [] => return (chat, earned)
  | e :: es => do
    let recording ← Work.query (.insert chat.user e)
    let chat := { chat with last := some recording.id }
    Work.put chat
    let points ← Work.ofExcept (Score.points e.amount)
    addAll chat (earned + points) es

/-- The two lines of an item in a numbered list. -/
def itemLines (n : Nat) (item : String) (amount : Binary64) (category : String) : List String :=
  [toString n ++ ". " ++ item, "   💰 " ++ Money.text amount ++ " | 🏷️ " ++ category]

/-- The reply to the recording of a list of expenses. -/
def recordedAll (es : List Entry) (experience : String) (warning : List String) : Reply :=
  ofLines (
    ["✅ *" ++ toString es.length ++ " Transaksi Tercatat!*", ""] ++
    numbered (fun n e => itemLines n e.item e.amount e.category) es ++
    ["", divider, "*Total: " ++ Money.text (Intent.total es) ++ "*", "", experience,
      "_!undo hanya membatalkan transaksi terakhir._"] ++
    warning)

/-- Records a list of expenses. -/
def addMany (o : Occasion) (chat : Chat) (es : List Entry) : Work Reply := do
  let (chat, earned) ← addAll chat 0 es
  let experience ← experienceLine chat.user earned
  let warning ← alertLines o.threshold chat
  return recordedAll es experience warning

/-- Takes the last recording back. -/
def undo (chat : Chat) : Work Reply := do
  match chat.last with
  | none => return ofText "ℹ️ Tidak ada transaksi terakhir untuk dibatalkan."
  | some id =>
    let removed : Bool ← Work.query (.delete chat.user id)
    Work.put { chat with last := none }
    if removed then return ofText "↩️ Transaksi terakhir berhasil dibatalkan."
    else return ofText "ℹ️ Transaksi terakhir sudah tidak ada."

/-- What a list has under a number, counted from one. -/
def nth? {α : Type} (xs : List α) (index : Int) : Option α :=
  if index < 1 then none else xs[(index - 1).toNat]?

/-- The reply to the removal of a row. -/
def removed (row : Row) : Reply :=
  ofText ("🗑️ Dihapus: " ++ row.item ++ " (" ++ Money.text row.amount.toDouble ++ ")")

/-- Removes the expense of today with this number in the list. -/
def delete (o : Occasion) (chat : Chat) (index : Int) : Work Reply := do
  let rows ← Work.query (.listToday chat.user o.today)
  if rows.isEmpty then return ofText "ℹ️ Belum ada transaksi hari ini untuk dihapus."
  else
    match nth? rows index with
    | none =>
      return ofText ("❌ Nomor tidak valid. Pilih 1-" ++ toString rows.length ++ " (lihat !hari).")
    | some row =>
      let _ ← Work.query (.delete chat.user row.id)
      if chat.last = some row.id then Work.put { chat with last := none }
      return removed row

end BukuKas.Reply
