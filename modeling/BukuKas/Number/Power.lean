/-!
# Powers of two and of ten

The steps of the binary grid are powers of two, and decimals are shifted by powers of ten.

## Main results

* `twoTo_add` : powers of two multiply by adding exponents.
* `log2_twoTo`, `lt_twoTo_log2_succ` : a number lies below the power behind its logarithm.
-/

namespace BukuKas.Number

/-- Two to the power of `k`. -/
def twoTo (k : Nat) : Nat := Nat.pow 2 k

/-- Ten to the power of `k`. -/
def tenTo (k : Nat) : Nat := Nat.pow 10 k

theorem twoTo_add (j k : Nat) : twoTo (j + k) = twoTo j * twoTo k :=
  Nat.pow_add 2 j k

theorem twoTo_pos (k : Nat) : 0 < twoTo k := Nat.two_pow_pos k

theorem tenTo_pos (k : Nat) : 0 < tenTo k := Nat.pow_pos (by decide)

theorem twoTo_dvd_twoTo {j k : Nat} (h : j ≤ k) : twoTo j ∣ twoTo k :=
  Nat.pow_dvd_pow 2 h

theorem twoTo_le_twoTo {j k : Nat} (h : j ≤ k) : twoTo j ≤ twoTo k :=
  Nat.pow_le_pow_right (by decide) h

theorem log2_lt_of_lt_twoTo {n k : Nat} (hn : n ≠ 0) (h : n < twoTo k) : n.log2 < k :=
  (Nat.log2_lt hn).2 h

theorem lt_twoTo_log2_succ (n : Nat) : n < twoTo (n.log2 + 1) := Nat.lt_log2_self

theorem log2_twoTo (k : Nat) : (twoTo k).log2 = k := Nat.log2_two_pow

end BukuKas.Number
