import BukuKas.Category

/-!
# Standing texts

The texts of the service that do not depend on a ledger: the help, the list of categories, the tips,
and the reply to a failure.
-/

namespace BukuKas.Reply

/-- Lines with line ends between them. -/
def joinLines (lines : List String) : String := "\n".intercalate lines

/-- The line between the lines of a report and its sum. -/
def divider : String := "━━━━━━━━━━━━━"

/-- The reply to a message whose work failed. -/
def failure : String := "❌ Terjadi kesalahan. Coba lagi nanti."

/-- The help. -/
def help : String := joinLines [
  "📱 *Budget Tracker Bot*",
  "",
  "*Akun:*",
  "• \x60!login <email>\x60 - Login",
  "• \x60!logout\x60 - Logout",
  "• \x60!alert on|off\x60 - Nyalakan/matikan peringatan budget",
  "",
  "*Catat Transaksi:*",
  "• \"Makan 25k\" (auto kategori)",
  "• \"Kado 50k #7\" (manual: #7 = Lainnya)",
  "• \"Kopi 20k, roti 15k\" (beberapa sekaligus)",
  "• \x60!undo\x60 - Batalkan transaksi terakhir",
  "• \x60!hapus <nomor>\x60 - Hapus transaksi hari ini",
  "",
  "*Laporan:*",
  "• \"Sisa budget?\" / \"Total pengeluaran\"",
  "• \x60!hari\x60 - Transaksi hari ini",
  "• \x60!minggu\x60 - Ringkasan 7 hari",
  "• \x60!banding\x60 - Bandingkan dengan bulan lalu",
  "• \x60!prediksi\x60 - Prediksi akhir periode",
  "• \x60!rekap\x60 - Rekap lengkap + file Excel",
  "• \x60!kategori\x60 - Daftar kategori",
  "",
  "*Pengingat:*",
  "• \x60!ingat <nama> <tanggal>\x60 - Tambah pengingat bulanan",
  "• \x60!pengingat\x60 - Lihat pengingat",
  "• \x60!hapusingat <nomor>\x60 - Hapus pengingat",
  "",
  "*Seru-seruan:*",
  "• \x60!tantangan\x60 \x60!sehat\x60 \x60!mood\x60 \x60!tips\x60"]

/-- The tips, one of which is chosen by chance. -/
def tips : List String := [
  "Pakai aturan 50/30/20: 50% kebutuhan, 30% keinginan, 20% tabungan.",
  "Tunggu 24 jam sebelum membeli barang yang bukan kebutuhan.",
  "Catat pengeluaran kecil juga, jajan receh kalau dikumpulkan bisa besar.",
  "Sisihkan tabungan di awal bulan, bukan dari sisa di akhir bulan.",
  "Bandingkan harga di beberapa toko sebelum belanja bulanan.",
  "Matikan notifikasi promo e-commerce supaya tidak tergoda checkout.",
  "Bawa botol minum sendiri, hemat beli air kemasan setiap hari.",
  "Tinjau langganan streaming tiap bulan, hentikan yang jarang ditonton.",
  "Siapkan dana darurat minimal 3 kali pengeluaran bulanan.",
  "Belanja dengan daftar dan jangan ke supermarket saat lapar."]

/-- The tip with that number, the numbers going round. -/
def tip (n : Int) : String := (tips[(n % tips.length).toNat]?).getD ""

/-- The list of categories with their numbers. -/
def categoryList : String :=
  joinLines (["*📁 Daftar Kategori*", ""] ++
    (Category.all.map fun c => "*#" ++ toString c.tag ++ "* " ++ c.name) ++
    ["", "_Gunakan #nomor untuk pilih kategori manual_", "_Contoh: \"Beli kado 100k #7\"_"])

end BukuKas.Reply
