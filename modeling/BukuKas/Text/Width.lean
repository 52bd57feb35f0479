import BukuKas.Text.Utf8

/-!
# Texts in units of two and four bytes

A text may be written in single bytes, or in units of two or of four bytes with the greater byte
first or last.  A text that begins with two characters of ASCII shows by its zero bytes how it is
written, since all characters of ASCII have zeros in the other bytes of their units.

Halves of pairs that stand alone are read as the replacement character, for they cannot stand in a
text.

## Main results

* `ofHead_plain` : without a zero among its first two bytes a text is read in single bytes.
* `decode16_ascii` : units below 128 are read one by one.
-/

namespace BukuKas.Text

/-- The width of the units in which a text is written. -/
inductive Width where
  /-- Single bytes. -/
  | one
  /-- Two bytes, the greater one first or last. -/
  | two (greaterFirst : Bool)
  /-- Four bytes, the greatest one first or last. -/
  | four (greaterFirst : Bool)
  deriving DecidableEq, Repr

namespace Width

/-- The width that the zeros among the first bytes show. -/
def ofHead : List Nat → Width
  | 0 :: 0 :: _ :: _ :: _ => .four true
  | 0 :: _ :: _ :: _ :: _ => .two true
  | _ :: 0 :: 0 :: 0 :: _ => .four false
  | _ :: 0 :: _ :: _ :: _ => .two false
  | [0, _] => .two true
  | [_, 0] => .two false
  | _ => .one

theorem ofHead_plain {a b : Nat} (ha : a ≠ 0) (hb : b ≠ 0) (bytes : List Nat) :
    ofHead (a :: b :: bytes) = .one := by
  unfold ofHead
  split <;> simp_all

/-- The units of two bytes, if the bytes make whole ones. -/
def units16? (greaterFirst : Bool) : List Nat → Option (List Nat)
  | [] => some []
  | a :: b :: bytes =>
    let unit := if greaterFirst then a * 0x100 + b else b * 0x100 + a
    (units16? greaterFirst bytes).map (unit :: ·)
  | _ => none

/-- The units of four bytes, if the bytes make whole ones. -/
def units32? (greaterFirst : Bool) : List Nat → Option (List Nat)
  | [] => some []
  | a :: b :: c :: d :: bytes =>
    let unit :=
      if greaterFirst then ((a * 0x100 + b) * 0x100 + c) * 0x100 + d
      else ((d * 0x100 + c) * 0x100 + b) * 0x100 + a
    (units32? greaterFirst bytes).map (unit :: ·)
  | _ => none

/-- Whether a unit is the first half of a pair. -/
def isHigh (unit : Nat) : Bool := 0xD800 ≤ unit && unit < 0xDC00

/-- Whether a unit is the second half of a pair. -/
def isLow (unit : Nat) : Bool := 0xDC00 ≤ unit && unit < 0xE000

/-- The character of a unit that stands alone. -/
def single (unit : Nat) : Char :=
  if isHigh unit || isLow unit then Utf8.replacement else Char.ofNat unit

/-- The characters that units of two bytes write. -/
def decode16 : List Nat → List Char
  | [] => []
  | [unit] => [single unit]
  | high :: low :: units =>
    if isHigh high && isLow low then
      Char.ofNat (0x10000 + (high - 0xD800) * 0x400 + (low - 0xDC00)) :: decode16 units
    else single high :: decode16 (low :: units)

/-- The characters that units of four bytes write, if all of them are characters. -/
def decode32? : List Nat → Option (List Char)
  | [] => some []
  | unit :: units => if unit < 0x110000 then (decode32? units).map (single unit :: ·) else none

/-- The characters that bytes write in units of this width. -/
def decode? (bytes : List Nat) : Width → Option (List Char)
  | .one => some (Utf8.decode bytes)
  | .two greaterFirst => (units16? greaterFirst bytes).map decode16
  | .four greaterFirst => (units32? greaterFirst bytes).bind decode32?

theorem decode16_ascii {units : List Nat} (h : ∀ u ∈ units, u < 0x80) :
    decode16 units = units.map Char.ofNat := by
  fun_induction decode16 units with
  | case1 => rfl
  | case2 unit =>
    have hu : unit < 0x80 := h unit (by simp)
    have h1 : isHigh unit = false := by
      simp only [isHigh, Bool.and_eq_false_iff, decide_eq_false_iff_not]
      omega
    have h2 : isLow unit = false := by
      simp only [isLow, Bool.and_eq_false_iff, decide_eq_false_iff_not]
      omega
    simp [single, h1, h2]
  | case3 high low units hp ih =>
    have hu : high < 0x80 := h high (by simp)
    simp only [isHigh, Bool.and_eq_true, decide_eq_true_eq] at hp
    omega
  | case4 high low units hp ih =>
    have hu : high < 0x80 := h high (by simp)
    have h1 : isHigh high = false := by
      simp only [isHigh, Bool.and_eq_false_iff, decide_eq_false_iff_not]
      omega
    have h2 : isLow high = false := by
      simp only [isLow, Bool.and_eq_false_iff, decide_eq_false_iff_not]
      omega
    rw [ih fun u hm => h u (List.mem_cons_of_mem high hm)]
    simp [single, h1, h2]

end Width

/-- The characters that bytes write, in units of the width that their zeros show. -/
def decodeBytes? (bytes : List Nat) : Option (List Char) :=
  (Width.ofHead bytes).decode? bytes

end BukuKas.Text
