import BukuKas.Calendar.Date

/-!
# The challenge of the day

Each date has one of ten challenges: the date read as a number, year, month and day in decimal
digits, modulo ten.

## Main results

* `index_eq_mod` : only the last digit of the day of the month counts.
-/

namespace BukuKas.Score.Challenge

open Calendar (Date)

/-- The challenges. -/
def all : List String := [
  "Bawa bekal dari rumah, jangan jajan makan siang hari ini 🍱",
  "Tidak beli kopi kekinian hari ini ☕",
  "Catat semua pengeluaran sekecil apa pun hari ini 📝",
  "Jalan kaki atau naik transportasi umum, skip ojol 🚶",
  "Tidak checkout belanja online hari ini 🛒",
  "Masak sendiri untuk makan malam 🍳",
  "Sisihkan Rp10.000 ke tabungan hari ini 💰",
  "Cek ulang langganan yang jarang dipakai dan pertimbangkan berhenti 📺",
  "Habiskan kurang dari Rp50.000 seharian ini 🎯",
  "Minum air putih saja, tanpa minuman manis berbayar 💧"]

/-- The date as one number, such as 20261019. -/
def dateNumber (d : Date) : Nat :=
  d.year * 10000 + d.month * 100 + d.day

/-- The place of the challenge in the list. -/
def index (d : Date) : Nat :=
  dateNumber d % all.length

theorem index_eq_mod (d : Date) : index d = d.day % 10 := by
  show (d.year * 10000 + d.month * 100 + d.day) % 10 = d.day % 10
  omega

/-- The challenge of a date. -/
def ofDate (d : Date) : String :=
  (all[index d]?).getD ""

end BukuKas.Score.Challenge
