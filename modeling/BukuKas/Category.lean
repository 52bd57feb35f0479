import BukuKas.Text.Case
import BukuKas.Text.Blank

/-!
# Categories

Every expense belongs to one of seven categories.  The sender chooses one by its number, or it is
found from the words of the message: the categories are tried in order, and the first with a
keyword somewhere in the text is taken.

## Main results

* `Category.ofTag?_eq_some_iff` : a tag chooses a category exactly when it is its number.
* `Category.detect_eq_other` : a text without any keyword belongs to the last category.
-/

namespace BukuKas

/-- What money is spent on. -/
inductive Category where
  | foodAndDrink
  | transport
  | groceries
  | lifestyle
  | health
  | billsAndDebt
  | other
  deriving DecidableEq, Repr

namespace Category

/-- The categories in the order of their numbers. -/
def all : List Category :=
  [.foodAndDrink, .transport, .groceries, .lifestyle, .health, .billsAndDebt, .other]

/-- The name that is stored and shown. -/
def name : Category → String
  | .foodAndDrink => "Makanan & Minuman"
  | .transport => "Transport"
  | .groceries => "Belanja Kebutuhan"
  | .lifestyle => "Lifestyle"
  | .health => "Kesehatan"
  | .billsAndDebt => "Tagihan & Utang"
  | .other => "Lainnya"

/-- The words that point to a category. -/
def keywords : Category → List String
  | .foodAndDrink =>
    ["makan", "minum", "jajan", "lunch", "dinner", "sarapan", "kopi", "cafe", "roti",
      "snack", "bakso", "mie", "soto", "nasi", "ayam", "ikan", "sate", "martabak", "gorengan"]
  | .transport => ["bensin", "parkir", "tol", "gojek", "grab", "ojol", "uber", "taxi", "bus",
      "kereta", "mrt", "krl", "angkot", "service", "bengkel", "motor", "mobil"]
  | .groceries => ["belanja", "supermarket", "indomaret", "alfamart", "market", "sayur", "buah",
      "sabun", "shampoo", "odol", "tisu", "popok", "susu", "beras", "minyak"]
  | .lifestyle => ["nonton", "bioskop", "film", "game", "buku", "hobi", "baju", "kaos", "celana",
      "sepatu", "tas", "skincare", "makeup", "salon", "barber", "netflix", "spotify"]
  | .health => ["dokter", "obat", "apotek", "rumah sakit", "klinik", "vitamin", "checkup", "gigi",
      "mata", "bpjs"]
  | .billsAndDebt => ["listrik", "air", "pam", "internet", "wifi", "pulsa", "paket data", "hp",
      "cicilan", "utang", "arisan", "spp", "sekolah", "kost", "kontrakan", "sewa"]
  | .other => ["sedekah", "donasi", "kado", "hadiah", "lain", "misc"]

/-- The category with this number, counted from one. -/
def ofTag? : Nat → Option Category
  | 0 => none
  | n + 1 => all[n]?

/-- The number by which a category is chosen. -/
def tag : Category → Nat
  | .foodAndDrink => 1
  | .transport => 2
  | .groceries => 3
  | .lifestyle => 4
  | .health => 5
  | .billsAndDebt => 6
  | .other => 7

theorem ofTag?_tag (c : Category) : ofTag? c.tag = some c := by
  cases c <;> rfl

theorem ofTag?_eq_some_iff {n : Nat} {c : Category} : ofTag? n = some c ↔ n = c.tag := by
  constructor
  · intro h
    match n, h with
    | 0, h => simp [ofTag?] at h
    | 1, h | 2, h | 3, h | 4, h | 5, h | 6, h | 7, h => injection h with h; rw [← h]; rfl
    | n + 8, h => simp [ofTag?, all] at h
  · rintro rfl
    exact ofTag?_tag c

/-- Whether a text in lower case holds one of the keywords. -/
def isNamedIn (lowered : List Char) (c : Category) : Bool :=
  c.keywords.any fun keyword => Text.contains keyword.toList lowered

/-- The first category with a keyword in the text, and the last category when none has one. -/
def detect (text : List Char) : Category :=
  (all.find? (isNamedIn (Text.lower text))).getD .other

theorem detect_eq_other {text : List Char}
    (h : ∀ c ∈ all, isNamedIn (Text.lower text) c = false) : detect text = .other := by
  rw [detect, List.find?_eq_none.2 fun c hc => by simp [h c hc]]
  rfl

/-- The category of a text that may carry a tag: the tag decides when it is a number of a
category. -/
def classify (text : List Char) (tag : Option Nat) : Category :=
  (tag.bind ofTag?).getD (detect text)

end Category

end BukuKas
