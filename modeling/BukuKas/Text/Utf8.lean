/-!
# Reading UTF-8

Bytes are read as characters.  Where the bytes stop being UTF-8, one replacement character stands
for the longest beginning of a character that was there, and reading goes on behind it.

## Main results

* `decode_ascii` : bytes below 128 are read one by one.
-/

namespace BukuKas.Text.Utf8

/-- A character that has begun: how many bytes are owed, the least and the greatest that the next
one may be, and the bits so far. -/
structure Owed where
  count : Nat
  least : Nat
  greatest : Nat
  bits : Nat

/-- What stands for bytes that are no character. -/
def replacement : Char := '\uFFFD'

/-- A byte at the beginning of a character: a whole character, or what is owed. -/
def begin? (b : Nat) : Option (Char ⊕ Owed) :=
  if b < 0x80 then some (.inl (Char.ofNat b))
  else if b < 0xC2 then none
  else if b < 0xE0 then some (.inr ⟨1, 0x80, 0xBF, b % 0x20⟩)
  else if b < 0xF0 then
    some (.inr ⟨2, if b = 0xE0 then 0xA0 else 0x80, if b = 0xED then 0x9F else 0xBF, b % 0x10⟩)
  else if b < 0xF5 then
    some (.inr ⟨3, if b = 0xF0 then 0x90 else 0x80, if b = 0xF4 then 0x8F else 0xBF, b % 0x08⟩)
  else none

/-- Reads on, perhaps within a character that has begun. -/
def decodeFrom : Option Owed → List Nat → List Char
  | none, [] => []
  | some _, [] => [replacement]
  | none, b :: bs => start b bs
  | some owed, b :: bs =>
    if owed.least ≤ b && b ≤ owed.greatest then
      let bits := owed.bits * 0x40 + b % 0x40
      if owed.count = 1 then Char.ofNat bits :: decodeFrom none bs
      else decodeFrom (some ⟨owed.count - 1, 0x80, 0xBF, bits⟩) bs
    else replacement :: start b bs
where
  /-- Reads a byte at the beginning of a character, and what follows it. -/
  start (b : Nat) (bs : List Nat) : List Char :=
    match begin? b with
    | none => replacement :: decodeFrom none bs
    | some (.inl c) => c :: decodeFrom none bs
    | some (.inr owed) => decodeFrom (some owed) bs

/-- The characters that bytes write. -/
def decode (bytes : List Nat) : List Char := decodeFrom none bytes

theorem decode_ascii {bytes : List Nat} (h : ∀ b ∈ bytes, b < 0x80) :
    decode bytes = bytes.map Char.ofNat := by
  unfold decode
  induction bytes with
  | nil => rw [decodeFrom]; rfl
  | cons b bs ih =>
    have hb : b < 0x80 := h b List.mem_cons_self
    rw [decodeFrom, decodeFrom.start, begin?, if_pos hb]
    simp [ih fun c hc => h c (List.mem_cons_of_mem b hc)]

end BukuKas.Text.Utf8
