import BukuKas.Reply.Recording

/-!
# Reminders and the alert

The answers that change a chat and nothing else: reminders are listed, added and removed, and the
alert is turned on and off.
-/

namespace BukuKas.Reply

/-- Lists reminders, under the numbers by which they can be removed. -/
def listReminders (reminders : List Reminder) : Reply :=
  if reminders.isEmpty then
    ofText "📭 Belum ada pengingat.\n\nTambah dengan: !ingat <nama> <tanggal>"
  else
    ofLines (["⏰ *Pengingat Bulanan*", ""] ++
      numbered (fun n (r : Reminder) =>
        [toString n ++ ". " ++ r.name ++ " (tiap tanggal " ++ toString r.day ++ ")"]) reminders ++
      ["", "_Hapus dengan !hapusingat <nomor>_"])

/-- Adds a reminder at the end. -/
def addReminder (chat : Chat) (name : String) (day : Int) : Work Reply := do
  Work.put { chat with reminders := chat.reminders ++ [⟨name, day⟩] }
  return ofText ("⏰ Pengingat ditambahkan: *" ++ name ++ "* setiap tanggal " ++ toString day ++ ".")

/-- The reply to the removal of a reminder. -/
def forgotten (reminder : Reminder) : Reply := ofText ("🗑️ Pengingat dihapus: " ++ reminder.name)

/-- Removes the reminder with this number in the list. -/
def deleteReminder (chat : Chat) (index : Int) : Work Reply := do
  if chat.reminders.isEmpty then return ofText "ℹ️ Belum ada pengingat untuk dihapus."
  else
    match nth? chat.reminders index with
    | none =>
      return ofText ("❌ Nomor tidak valid. Pilih 1-" ++ toString chat.reminders.length ++
        " (lihat !pengingat).")
    | some reminder =>
      Work.put { chat with reminders := chat.reminders.eraseIdx (index - 1).toNat }
      return forgotten reminder

/-- Turns the alert on or off. -/
def setAlert (chat : Chat) (enabled : Bool) : Work Reply := do
  Work.put { chat with alert := enabled }
  return ofText ("Peringatan budget " ++ (if enabled then "dinyalakan 🔔" else "dimatikan 🔕") ++ ".")

end BukuKas.Reply
