import BukuKas.Money
import BukuKas.Proofs.Number.Monotone
import BukuKas.Proofs.Text.Digits

/-!
# Printed money

An amount is printed as the whole number nearest to it, digit by digit and however long, with points
that cut its digits from the right into groups of three.  The points carry nothing: without them the
groups are the numeral of the number.  Neither the sign of a currency nor a minus ends like a group
of digits, so the groups are found again behind them, and whole amounts that doubles hold exactly
have different texts.

## Main results

* `Number.isNearest_nearest` : what is meant by the nearest whole number.
* `Number.isGrouped_groupedDigits` : the groups of a number.
* `Money.text_of_amount` : how every amount is printed, and that whole amounts can be told apart.
-/

namespace BukuKas

namespace Number

/-! ## The nearest whole number -/

/-- The number is at most half a unit away from the quotient, and even when it is exactly half a
unit away. -/
structure IsNearest (num den n : Nat) : Prop where
  above : 2 * num ≤ (2 * n + 1) * den
  below : 2 * n * den ≤ 2 * num + den
  even : 2 * num = (2 * n + 1) * den ∨ 2 * n * den = 2 * num + den → n % 2 = 0

theorem isNearest_nearest (num : Nat) {den : Nat} (h : 0 < den) :
    IsNearest num den (nearest num den) := by
  obtain ⟨hup, hdown⟩ := nearest_error num h
  have hodd : (2 * nearest num den + 1) * den = 2 * (nearest num den * den) + den := by
    rw [Nat.add_mul, Nat.one_mul, Nat.mul_assoc]
  have heven : 2 * nearest num den * den = 2 * (nearest num den * den) := Nat.mul_assoc _ _ _
  refine ⟨by omega, by omega, fun htie => ?_⟩
  rw [hodd, heven] at htie
  have hparts : den * (num / den) + num % den = num := Nat.div_add_mod num den
  have hsmall : num % den < den := Nat.mod_lt num h
  have hsame : num / den * den = den * (num / den) := Nat.mul_comm _ _
  have hnext : (num / den + 1) * den = den * (num / den) + den := by
    rw [Nat.add_mul, Nat.one_mul, hsame]
  clear hodd heven hup hdown
  unfold nearest at htie ⊢
  dsimp only at htie ⊢
  by_cases hlow : 2 * (num % den) < den
  · simp only [if_pos hlow] at htie ⊢
    omega
  · by_cases hhigh : den < 2 * (num % den)
    · simp only [if_neg hlow, if_pos hhigh] at htie ⊢
      omega
    · simp only [if_neg hlow, if_neg hhigh]
      omega

/-! ## Groups of digits -/

/-- The text is the numeral of a number in ten digits, without a zero before another digit. -/
structure IsNumeral (numeral : List Char) (n : Nat) : Prop where
  nonempty : numeral ≠ []
  digits : ∀ d ∈ numeral, d.isDigit = true
  value : natOfDigits numeral = n
  leading : numeral.head? = some '0' → numeral = ['0']

/-- The text has groups of digits with a point between any two, one to three digits in the first and
three in each other one; without the points it is the numeral of a number. -/
def IsGrouped (text : List Char) (n : Nat) : Prop :=
  ∃ first rest, text = ['.'].intercalate (first :: rest) ∧ (1 ≤ first.length ∧ first.length ≤ 3) ∧
    (∀ group ∈ rest, group.length = 3) ∧ (∀ group ∈ first :: rest, ∀ d ∈ group, d.isDigit = true) ∧
    IsNumeral (text.filter (· != '.')) n

/-- A positive number has no zero before its other digits. -/
theorem head?_toDigits_ne (n : Nat) (h : 0 < n) : (Nat.toDigits 10 n).head? ≠ some '0' := by
  induction n using Nat.strongRecOn with
  | ind n ih =>
      by_cases hsmall : n < 10
      · rw [Nat.toDigits_of_lt_base hsmall, List.head?_cons, ne_eq, Option.some.injEq,
          Nat.digitChar_eq_zero]
        exact Nat.ne_of_gt h
      · have hfirst := ih (n / 10) (by omega) (by omega)
        obtain ⟨c, cs, hdigits⟩ := List.exists_cons_of_ne_nil (@Nat.toDigits_ne_nil (n / 10) 10)
        rw [Nat.toDigits_of_base_le (by decide) (by omega), hdigits]
        rwa [hdigits] at hfirst

theorem isNumeral_digitsOf (n : Nat) : IsNumeral (digitsOf n) n := by
  have hdigits : ∀ d ∈ Nat.toDigits 10 n, d.isDigit = true := fun d hd =>
    Nat.isDigit_of_mem_toDigits (by decide) (by decide) hd
  rw [digitsOf, Nat.toList_repr]
  refine ⟨Nat.toDigits_ne_nil, hdigits, ?_, fun hhead => ?_⟩
  · rw [natOfDigits_of_ascii hdigits, Nat.ofDigitChars_toDigits (by decide) (by decide)]
  · rcases Nat.eq_zero_or_pos n with rfl | hpos
    · rfl
    · exact absurd hhead (head?_toDigits_ne n hpos)

/-- Counted from the right, only the first group can be short. -/
theorem lengths_groupsOfThree {cs : List Char} (h : cs ≠ []) : ∃ first rest,
    groupsOfThree cs = first :: rest ∧ (1 ≤ first.length ∧ first.length ≤ 3) ∧
      ∀ group ∈ rest, group.length = 3 := by
  induction cs with
  | nil => exact absurd rfl h
  | cons c cs ih =>
      by_cases hcs : cs = []
      · subst hcs
        exact ⟨[c], [], rfl, ⟨Nat.le_refl 1, Nat.le_add_left 1 2⟩, nofun⟩
      · obtain ⟨first, rest, hgroups, ⟨hlow, hhigh⟩, hrest⟩ := ih hcs
        rw [groupsOfThree, hgroups]
        dsimp only
        by_cases hshort : first.length < 3
        · rw [if_pos hshort]
          exact ⟨c :: first, rest, rfl, ⟨Nat.le_add_left 1 _, hshort⟩, hrest⟩
        · rw [if_neg hshort]
          refine ⟨[c], first :: rest, rfl, ⟨Nat.le_refl 1, Nat.le_add_left 1 2⟩,
            fun group hgroup => ?_⟩
          rcases List.mem_cons.mp hgroup with rfl | hgroup
          · omega
          · exact hrest group hgroup

/-- Without the points between them, groups that have none are what they were cut from. -/
theorem filter_intercalate {groups : List (List Char)}
    (h : ∀ group ∈ groups, ∀ d ∈ group, d ≠ '.') :
    (['.'].intercalate groups).filter (· != '.') = groups.flatten := by
  have hkeep {group : List Char} (hgroup : ∀ d ∈ group, d ≠ '.') : group.filter (· != '.') =
      group :=
    List.filter_eq_self.mpr fun d hd => bne_iff_ne.mpr (hgroup d hd)
  induction groups with
  | nil => rfl
  | cons group groups ih =>
      obtain ⟨hgroup, hgroups⟩ := List.forall_mem_cons.mp h
      cases groups with
      | nil => simp [hkeep hgroup]
      | cons second rest =>
          rw [List.intercalate_cons_cons, List.filter_append, List.filter_append,
            ih hgroups, hkeep hgroup, List.filter_cons_of_neg (by decide), List.filter_nil,
            List.append_nil]
          exact List.flatten_cons.symm

/-- A number is printed in groups. -/
theorem isGrouped_groupedDigits (n : Nat) : IsGrouped (groupedDigits n) n := by
  have hnumeral := isNumeral_digitsOf n
  obtain ⟨first, rest, hgroups, hfirst, hrest⟩ := lengths_groupsOfThree hnumeral.nonempty
  have hflat : (first :: rest).flatten = digitsOf n := by rw [← hgroups, flatten_groupsOfThree]
  have hdigits : ∀ group ∈ first :: rest, ∀ d ∈ group, d.isDigit = true := fun group hgroup d hd =>
    hnumeral.digits d (hflat ▸ List.mem_flatten_of_mem hgroup hd)
  have hpoint : ∀ group ∈ first :: rest, ∀ d ∈ group, d ≠ '.' := by
    rintro group hgroup _ hd rfl
    exact absurd (hdigits group hgroup _ hd) (by decide)
  refine ⟨first, rest, by rw [groupedDigits, hgroups], hfirst, hrest, hdigits, ?_⟩
  rw [groupedDigits, hgroups, filter_intercalate hpoint, hflat]
  exact hnumeral

/-- A text is the groups of one number only. -/
theorem IsGrouped.unique {text : List Char} {m n : Nat} (hm : IsGrouped text m)
    (hn : IsGrouped text n) :
    m = n := by
  obtain ⟨_, _, -, -, -, -, hm⟩ := hm
  obtain ⟨_, _, -, -, -, -, hn⟩ := hn
  exact hm.value.symm.trans hn.value

/-- Groups have no other characters than digits and points. -/
theorem IsGrouped.chars {text : List Char} {n : Nat} (h : IsGrouped text n) :
    ∀ c ∈ text, (c.isDigit || c == '.') = true := by
  obtain ⟨_, _, -, -, -, -, hnumeral⟩ := h
  intro c hc
  by_cases hpoint : c = '.'
  · rw [hpoint]
    rfl
  · rw [hnumeral.digits c (List.mem_filter.mpr ⟨hc, bne_iff_ne.mpr hpoint⟩), Bool.true_or]

/-! ## Doubles -/

namespace Binary64

/-- A whole number that is not too large is a double. -/
theorem exists_ofInt_eq {n : Int} (h : n.natAbs ≤ twoTo 53) :
    ∃ hgrid, ofInt n = .finite (n * (quantaPerOne : Int)) hgrid := by
  have hsize : (n * (quantaPerOne : Int)).natAbs = n.natAbs * twoTo 1074 := by
    rw [Int.natAbs_mul, Int.natAbs_natCast, quantaPerOne]
  -- stated for any exponents, so that the powers are not worked out
  have hpowers {j k : Nat} (hlt : j < k) : twoTo j < twoTo k := Nat.pow_lt_pow_right (by decide) hlt
  have hlimit : n.natAbs * twoTo 1074 < quantaLimit := by
    calc n.natAbs * twoTo 1074 ≤ twoTo 53 * twoTo 1074 := Nat.mul_le_mul_right _ h
      _ = twoTo (53 + 1074) := (twoTo_add 53 1074).symm
      _ < quantaLimit := hpowers (by decide)
  have hgrid : OnGrid (n * (quantaPerOne : Int)).natAbs := by
    rw [hsize]
    exact ⟨mod_gridStep_of_le h, hlimit⟩
  exact ⟨hgrid, ofQuanta_of_onGrid hgrid⟩

theorem finite_lt_zero_iff {q : Int} {hgrid : OnGrid q.natAbs} :
    Binary64.finite q hgrid < 0 ↔ q < 0 := by
  obtain ⟨hzero, hzeroEq⟩ := zero_eq
  rw [hzeroEq, finite_lt_iff]

end Binary64

end Number

namespace Money

open Number (Binary64 IsGrouped IsNearest OnGrid nearest quantaPerOne groupedDigits twoTo)

variable {currency : String}

/-- The sign of rupiah, whatever the case of their name, and the name in capitals for all else. -/
theorem toList_currencySign (currency : String) : (currencySign currency).toList =
    if Text.upper currency.toList = ['I', 'D', 'R'] then ['R', 'p']
    else Text.upper currency.toList ++ [' '] := by
  have hname : (String.ofList (Text.upper currency.toList) == "IDR") =
      decide (Text.upper currency.toList = ['I', 'D', 'R']) := by
    rw [Bool.eq_iff_iff, beq_iff_eq, decide_eq_true_eq]
    exact String.ofList_inj
  unfold currencySign
  dsimp only
  rw [hname]
  by_cases hrupiah : Text.upper currency.toList = ['I', 'D', 'R']
  · rw [if_pos (decide_eq_true hrupiah), if_pos hrupiah]
    rfl
  · rw [if_neg (by simpa using hrupiah), if_neg hrupiah, String.toList_append, String.toList_ofList]
    rfl

/-- Before the digits stands a letter or a space. -/
theorem exists_last_currencySign (currency : String) : ∃ front c,
    (currencySign currency).toList = front ++ [c] ∧ (c.isDigit || c == '.') = false := by
  rw [toList_currencySign]
  split
  · exact ⟨['R'], 'p', rfl, by decide⟩
  · exact ⟨_, ' ', rfl, by decide⟩

/-- The parts of the text of a finite amount. -/
theorem toList_textIn (currency : String) {q : Int} {hgrid : OnGrid q.natAbs} :
    (textIn currency (.finite q hgrid)).toList =
      (if q < 0 then ['-'] else []) ++ (currencySign currency).toList ++
        groupedDigits (nearest q.natAbs quantaPerOne) := by
  have hsign : (if Binary64.finite q hgrid < 0 then "-" else "").toList = if q < 0
      then ['-'] else [] := by
    by_cases hneg : q < 0
    · rw [if_pos hneg, if_pos (Binary64.finite_lt_zero_iff.mpr hneg)]
      rfl
    · rw [if_neg hneg, if_neg (mt Binary64.finite_lt_zero_iff.mp hneg)]
      rfl
  rw [textIn, String.toList_append, String.toList_append, hsign, digitsText, String.toList_ofList]

/-- What stands before the last character that is no digit and no point is told apart from the
digits behind it. -/
theorem split_text {sign other front digits others : List Char} {c : Char}
    (hc : (c.isDigit || c == '.') = false)
    (hdigits : ∀ d ∈ digits, (d.isDigit || d == '.') = true)
    (hothers : ∀ d ∈ others, (d.isDigit || d == '.') = true)
    (h : sign ++ (front ++ [c]) ++ digits = other ++ (front ++ [c]) ++ others) :
    sign = other ∧ digits = others := by
  have hback {before behind : List Char} (hbehind : ∀ d ∈ behind, (d.isDigit || d == '.') = true) :
      ((before ++ (front ++ [c]) ++ behind).reverse.takeWhile fun d => d.isDigit || d == '.') =
        behind.reverse := by
    rw [List.reverse_append, List.takeWhile_append_of_pos fun d hd =>
      hbehind d (List.mem_reverse.mp hd), List.reverse_append, List.reverse_append,
      List.reverse_singleton, List.singleton_append, List.cons_append,
      List.takeWhile_cons_of_neg (by simpa using hc), List.append_nil]
  have hsame : digits = others := by
    rw [← List.reverse_inj, ← hback hdigits, h, hback hothers]
  subst hsame
  exact ⟨List.append_cancel_right (List.append_cancel_right h), rfl⟩

/-- Whole amounts that doubles hold exactly have different texts. -/
theorem textIn_ofInt_inj {m n : Int} (hm : m.natAbs ≤ twoTo 53) (hn : n.natAbs ≤ twoTo 53)
    (h : textIn currency (.ofInt m) = textIn currency (.ofInt n)) : m = n := by
  have hquanta : 0 < quantaPerOne := Number.twoTo_pos 1074
  have hsize (k : Int) : (k * (quantaPerOne : Int)).natAbs = k.natAbs * quantaPerOne := by
    rw [Int.natAbs_mul, Int.natAbs_natCast]
  have hsign (k : Int) : k * (quantaPerOne : Int) < 0 ↔ k < 0 := by
    refine ⟨fun hneg => Int.not_le.mp fun hnot => ?_, fun hneg =>
      Int.mul_neg_of_neg_of_pos hneg (Int.natCast_pos.mpr hquanta)⟩
    exact absurd hneg (Int.not_lt.mpr (Int.mul_nonneg hnot (Int.natCast_nonneg _)))
  obtain ⟨hmgrid, hmEq⟩ := Binary64.exists_ofInt_eq hm
  obtain ⟨hngrid, hnEq⟩ := Binary64.exists_ofInt_eq hn
  obtain ⟨front, c, hfront, hc⟩ := exists_last_currencySign currency
  have htexts := congrArg String.toList h
  rw [hmEq, hnEq, toList_textIn, toList_textIn, hfront, hsize, hsize, Number.nearest_mul _ hquanta,
    Number.nearest_mul _ hquanta] at htexts
  obtain ⟨hsigns, hdigits⟩ := split_text hc (Number.isGrouped_groupedDigits _).chars
    (Number.isGrouped_groupedDigits _).chars htexts
  have hmag : m.natAbs = n.natAbs :=
    (hdigits ▸ Number.isGrouped_groupedDigits m.natAbs).unique
      (Number.isGrouped_groupedDigits n.natAbs)
  simp only [hsign] at hsigns
  by_cases hmneg : m < 0 <;> by_cases hnneg : n < 0
  · omega
  · rw [if_pos hmneg, if_neg hnneg] at hsigns
    exact nomatch hsigns
  · rw [if_neg hmneg, if_pos hnneg] at hsigns
    exact nomatch hsigns
  · omega

/-- An amount of so many quanta, of which there are two to the power of 1074 in one, is printed with
a minus when it is negative, the sign of the currency, and in groups of digits the whole number that
is nearest to its size, the even one of two.  So whole amounts that doubles hold exactly are printed
alike only if they are the same. -/
theorem text_of_amount (currency : String) :
    (∀ (quanta : Int) (hgrid : OnGrid quanta.natAbs), ∃ digits n,
      (textIn currency (.finite quanta hgrid)).toList = (if quanta < 0 then ['-'] else []) ++
        (if Text.upper currency.toList = ['I', 'D', 'R'] then ['R', 'p']
          else Text.upper currency.toList ++ [' ']) ++ digits ∧
      IsGrouped digits n ∧ IsNearest quanta.natAbs (twoTo 1074) n) ∧
    ∀ m n : Int, m.natAbs ≤ twoTo 53 → n.natAbs ≤ twoTo 53 →
      textIn currency (.ofInt m) = textIn currency (.ofInt n) → m = n := by
  refine ⟨fun quanta hgrid => ?_, fun m n => textIn_ofInt_inj⟩
  refine ⟨groupedDigits (nearest quanta.natAbs quantaPerOne), nearest quanta.natAbs quantaPerOne,
    ?_, Number.isGrouped_groupedDigits _, Number.isNearest_nearest _ (Number.twoTo_pos 1074)⟩
  rw [toList_textIn, toList_currencySign]

/-- Half a unit below a million is rounded up to it, which takes a further group.  A thousand and
its opposite are not printed alike. -/
theorem text_of_amount_of_million :
    let quanta : Int := -(1999999 * twoTo 1073)
    ∃ hgrid : OnGrid quanta.natAbs, textIn "idr" (.finite quanta hgrid) = "-Rp1.000.000" ∧
      (∃ digits n, (textIn "idr" (.finite quanta hgrid)).toList = ['-', 'R', 'p'] ++ digits ∧
        IsGrouped digits n ∧ IsNearest quanta.natAbs (twoTo 1074) n) ∧
      textIn "usd" (.ofInt 1000) ≠ textIn "usd" (.ofInt (-1000)) := by
  intro quanta
  obtain ⟨digits, n, htext, hgrouped, hnearest⟩ :=
    (text_of_amount "idr").1 quanta (by decide +kernel)
  rw [if_pos (by decide +kernel), if_pos (by decide +kernel)] at htext
  refine ⟨by decide +kernel, by decide +kernel, ⟨digits, n, htext, hgrouped, hnearest⟩,
    fun hsame => ?_⟩
  have hequal := (text_of_amount "usd").2 1000 (-1000) (by decide +kernel) (by decide +kernel) hsame
  exact absurd hequal (by decide)

end Money

end BukuKas
