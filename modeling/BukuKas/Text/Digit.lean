/-!
# Decimal digits

The decimal digits of every script, each with its value.  They come in blocks of ten, from the
digit zero of a script to its digit nine, so that a table of the zeros is all that is needed.

## Main results

* `digitValue?_lt` : the value of a digit is below ten.
* `isDigit_iff` : a character is a digit exactly when it has a value.
-/

namespace BukuKas.Text

/-- The digit zero of each script. -/
def zeroDigits : List Nat := [
  0x0030, 0x0660, 0x06F0, 0x07C0, 0x0966, 0x09E6, 0x0A66, 0x0AE6, 0x0B66, 0x0BE6,
  0x0C66, 0x0CE6, 0x0D66, 0x0DE6, 0x0E50, 0x0ED0, 0x0F20, 0x1040, 0x1090, 0x17E0,
  0x1810, 0x1946, 0x19D0, 0x1A80, 0x1A90, 0x1B50, 0x1BB0, 0x1C40, 0x1C50, 0xA620,
  0xA8D0, 0xA900, 0xA9D0, 0xA9F0, 0xAA50, 0xABF0, 0xFF10, 0x104A0, 0x10D30, 0x11066,
  0x110F0, 0x11136, 0x111D0, 0x112F0, 0x11450, 0x114D0, 0x11650, 0x116C0, 0x11730, 0x118E0,
  0x11950, 0x11C50, 0x11D50, 0x11DA0, 0x16A60, 0x16AC0, 0x16B50, 0x1D7CE, 0x1D7D8, 0x1D7E2,
  0x1D7EC, 0x1D7F6, 0x1E140, 0x1E2F0, 0x1E950, 0x1FBF0]

/-- The value of a decimal digit of any script. -/
def digitValue? (c : Char) : Option Nat :=
  if c.toNat < 0x80 then
    if 0x30 ≤ c.toNat && c.toNat ≤ 0x39 then some (c.toNat - 0x30) else none
  else
    (zeroDigits.find? fun nought => nought ≤ c.toNat && c.toNat < nought + 10).map (c.toNat - ·)

/-- Whether the character is a decimal digit of any script. -/
def isDigit (c : Char) : Bool :=
  (digitValue? c).isSome

/-- The value of a digit, and zero for every other character. -/
def digitValue (c : Char) : Nat :=
  (digitValue? c).getD 0

theorem digitValue?_lt {c : Char} {v : Nat} (h : digitValue? c = some v) : v < 10 := by
  unfold digitValue? at h
  split at h
  · split at h
    · rename_i hr
      simp only [Bool.and_eq_true, decide_eq_true_eq] at hr
      injection h with h
      omega
    · cases h
  · obtain ⟨nought, hz, rfl⟩ := Option.map_eq_some_iff.1 h
    have hp := List.find?_some hz
    simp only [Bool.and_eq_true, decide_eq_true_eq] at hp
    omega

theorem isDigit_iff {c : Char} : isDigit c = true ↔ ∃ v, digitValue? c = some v :=
  Option.isSome_iff_exists

theorem digitValue_lt (c : Char) : digitValue c < 10 := by
  unfold digitValue
  cases h : digitValue? c with
  | none => simp
  | some v => exact digitValue?_lt h

/-- The ten digits that messages are mostly written with. -/
theorem isDigit_of_ascii {c : Char} (h : c.isDigit = true) : isDigit c = true := by
  simp only [Char.isDigit, Bool.and_eq_true, decide_eq_true_eq, UInt32.le_iff_toNat_le] at h
  have hc : c.toNat = c.val.toNat := rfl
  have h1 : 48 ≤ c.toNat := h.1
  have h2 : c.toNat ≤ 57 := h.2
  simp only [isDigit, digitValue?]
  rw [if_pos (by omega), if_pos (by simp; omega)]
  rfl

end BukuKas.Text
