/-!
# About the service

Its version, and what it says of itself.
-/

namespace BukuKas.About

/-- The version. -/
def version : String := "0.1.0"

/-- What the service is for. -/
def description : String :=
  "Bot WhatsApp pencatat pengeluaran: parsing perintah, sesi login, dan gamifikasi."

/-- The sign that the service is up. -/
def banner : String := "budget-tracker-bot up"

end BukuKas.About
