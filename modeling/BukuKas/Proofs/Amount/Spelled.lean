import BukuKas.Proofs.Command.Listing
import BukuKas.Proofs.Number.Size

/-!
# Amounts as they are spelled

A sender writes an amount as a number with a unit behind it, or as a plain number of at least a
hundred.  Both are found behind any text that names no amount, whatever quantities, tags and zeros
it holds, as long as that text does not end with a character that binds the number to it: a digit, a
decimal point, a number sign.

The text before the number may well end with a figure, or with a figure and the letters of a unit.
Neither goes on into the number, since no unit begins with a digit; so the figures of the whole text
are those of the text before the number, and then those from the number on.

## Main results

* `Figure.allIn_append_of_unbound` : the figures before a number, and those from it on.
* `Figure.scan_append_of_numeral` : a numeral is read as it is written, with the unit behind it.
* `Amount.extract_of_spelled` : the amounts of numbers with and without a unit.
-/

namespace BukuKas

open Number (Binary64 readDecimal)
open Text (isDigit isBlank isLooseLetter looksLike dropLoose? lower)

/-! ## Numerals and units -/

/-- The text is a number: digits, perhaps with a point or comma and further digits behind it. -/
inductive Figure.Numeral : (text whole fraction : List Char) → Prop where
  | whole {whole : List Char} (hne : whole ≠ []) (hdigits : ∀ d ∈ whole, isDigit d = true) :
      Numeral whole whole []
  | decimal {whole fraction : List Char} {point : Char} (hne : whole ≠ [])
      (hdigits : ∀ d ∈ whole, isDigit d = true) (hpoint : point = '.' ∨ point = ',')
      (hfraction : fraction ≠ []) (hdecimals : ∀ d ∈ fraction, isDigit d = true) :
      Numeral (whole ++ point :: fraction) whole fraction

/-- The letters spell the unit, each of them large or small. -/
def MoneyUnit.IsSpelled (u : MoneyUnit) (letters : List Char) : Prop :=
  letters.map Char.toLower = u.spelling

namespace Text

/-- A letter is read as its small form, and as no other letter. -/
theorem looksLike_eq {letter c : Char} (h : c.toLower.isLower = true) :
    looksLike letter c = (c.toLower == letter) := by
  have hspecial : c ≠ '\u0130' ∧ c ≠ '\u0131' ∧ c ≠ '\u017F' ∧ c ≠ '\u212A' := by
    refine ⟨?_, ?_, ?_, ?_⟩ <;> (rintro rfl; exact absurd h (by decide))
  have hnot (d : Char) (hd : c ≠ d) : (c == d) = false := beq_false_of_ne hd
  unfold looksLike
  rw [hnot _ hspecial.1, hnot _ hspecial.2.1, hnot _ hspecial.2.2.1, hnot _ hspecial.2.2.2]
  simp

/-- Whether the texts differ at a place that both of them have. -/
def clashes (xs ys : List Char) : Bool := (xs.zip ys).any fun pair => pair.1 != pair.2

variable {word spelled letters : List Char}

/-- A word is found where letters spell it. -/
theorem dropLoose?_append_of_map (h : letters.map Char.toLower = word) (rest : List Char) :
    dropLoose? word (letters ++ rest) = some rest := by
  subst h
  induction letters with
  | nil => exact dropLoose?_nil rest
  | cons c cs ih =>
      rw [List.map_cons, List.cons_append, dropLoose?, if_pos (looksLike_of_toLower rfl)]
      exact ih

/-- A word is not found where letters spell another one. -/
theorem dropLoose?_append_of_clashes (h : letters.map Char.toLower = spelled)
    (hlower : ∀ letter ∈ spelled, letter.isLower = true) (hclash : clashes word spelled = true)
    (rest : List Char) : dropLoose? word (letters ++ rest) = none := by
  subst h
  induction letters generalizing word with
  | nil =>
      cases word <;> exact nomatch hclash
  | cons c cs ih =>
      rw [List.map_cons] at hlower hclash
      obtain ⟨hc, hcs⟩ := List.forall_mem_cons.mp hlower
      cases word with
      | nil => exact nomatch hclash
      | cons w ws =>
          rw [List.cons_append, dropLoose?, looksLike_eq hc]
          split
          · rename_i hsame
            apply ih hcs
            rw [clashes, List.zip_cons_cons, List.any_cons, ← eq_of_beq hsame, bne_self_eq_false,
              Bool.false_or] at hclash
            exact hclash
          · rfl

theorem toNat_of_isLower {c : Char} (h : c.toLower.isLower = true) : c.toNat < 0x80 := by
  unfold Char.toLower at h
  split at h
  · rename_i hupper
    have hlast : c.toNat ≤ 90 := UInt32.le_iff_toNat_le.mp hupper.2
    omega
  · have hlast := (bounds_of_isLower h).2
    omega

theorem isLooseLetter_of_isLower {c : Char} (h : c.toLower.isLower = true) :
    isLooseLetter c = true :=
  isLooseLetter_of_looksLike (isAlpha_of_isLower h) (looksLike_of_toLower rfl)

theorem isBlank_of_isLower {c : Char} (h : c.toLower.isLower = true) : isBlank c = false := by
  apply Bool.eq_false_iff.mpr
  intro hblank
  exact nomatch (isLooseLetter_of_isLower h).symm.trans (Figure.isLooseLetter_of_isBlank hblank)

/-- A digit is read as no letter. -/
theorem isLooseLetter_of_isDigit {c : Char} (h : isDigit c = true) : isLooseLetter c = false := by
  obtain ⟨nought, hnought, hfrom, hto⟩ := block_of_isDigit h
  have hall : ∀ nought ∈ zeroDigits, ∀ k < 10, isLooseLetter (Char.ofNat (nought + k)) = false := by
    decide +kernel
  have hc := hall nought hnought (c.toNat - nought) (by omega)
  rwa [Nat.add_sub_cancel' hfrom, Char.ofNat_toNat] at hc

end Text

namespace MoneyUnit

variable {u : MoneyUnit} {letters : List Char}

theorem isLower_of_mem_spelling : ∀ letter ∈ u.spelling, letter.isLower = true := by
  have hall : u.spelling.all Char.isLower = true := by
    cases u <;> rfl
  exact List.all_eq_true.mp hall

theorem IsSpelled.isLower (h : u.IsSpelled letters) : ∀ c ∈ letters, c.toLower.isLower = true := by
  intro c hc
  apply isLower_of_mem_spelling (u := u)
  rw [← h]
  exact List.mem_map_of_mem hc

theorem IsSpelled.ne_nil (h : u.IsSpelled letters) : letters ≠ [] := by
  rintro rfl
  cases u <;> exact nomatch h

/-- In lower case a unit is the unit that it spells. -/
theorem IsSpelled.ofSpelling? (h : u.IsSpelled letters) : ofSpelling? (lower letters) = some u := by
  rw [Text.lower_of_ascii fun c hc => Text.toNat_of_isLower (h.isLower c hc), h,
    ofSpelling?_spelling]

end MoneyUnit

namespace Figure

variable {u : MoneyUnit} {letters rest : List Char}

/-! ## Units as they are spelled -/

/-- Letters that spell a unit are this unit and no other. -/
theorem standsAt_of_isSpelled (h : u.IsSpelled letters)
    (hrest : rest.head?.any isLooseLetter = false) :
    standsAt (letters ++ rest) = fun other => decide (other = u) := by
  funext other
  unfold standsAt
  by_cases hsame : other = u
  · subst hsame
    rw [Text.dropLoose?_append_of_map h]
    dsimp only
    rw [hrest]
    simp
  · have hclash : Text.clashes other.spelling u.spelling = true := by
      revert hsame
      cases other <;> cases u <;> decide
    rw [Text.dropLoose?_append_of_clashes h MoneyUnit.isLower_of_mem_spelling hclash]
    simp [hsame]

/-- A unit is found as it is spelled when no letter follows it. -/
theorem suffixAt_of_isSpelled (h : u.IsSpelled letters)
    (hrest : rest.head?.any isLooseLetter = false) :
    suffixAt (letters ++ rest) = letters := by
  have hfind : MoneyUnit.all.find? (fun other => decide (other = u)) = some u := by
    cases u <;> rfl
  have hlength : letters.length = u.spelling.length := by
    rw [← h, List.length_map]
  rw [suffixAt_eq, standsAt_of_isSpelled h hrest, hfind]
  dsimp only
  rw [← hlength, List.take_left]

/-- Blanks may stand before a unit. -/
theorem unitAt_of_isSpelled {gap : List Char} (hgap : ∀ c ∈ gap, isBlank c = true)
    (h : u.IsSpelled letters) (hrest : rest.head?.any isLooseLetter = false) :
    unitAt (gap ++ (letters ++ rest)) = letters := by
  have hhead : ∀ c ∈ (letters ++ rest).head?, isBlank c = false := by
    intro c hc
    rw [List.head?_append, List.head?_eq_some_head h.ne_nil, Option.some_or] at hc
    rw [← Option.some.inj (Option.mem_def.mp hc)]
    exact Text.isBlank_of_isLower (h.isLower _ (List.head_mem h.ne_nil))
  rw [unitAt, List.dropWhile_append_of_pos hgap, Text.dropWhile_of_head? hhead,
    suffixAt_of_isSpelled h hrest]

/-- The text begins with a unit, perhaps behind blanks, and no letter follows it.  A unit is what is
read as one, its letters large or small. -/
def BeginsWithUnit (text : List Char) : Prop :=
  ∃ gap cs u, text = gap ++ cs ∧ (∀ c ∈ gap, isBlank c = true) ∧ standsAt cs u = true

/-- A unit begins with a letter. -/
theorem exists_cons_of_standsAt {cs : List Char} (h : standsAt cs u = true) :
    ∃ c ds, cs = c :: ds ∧ isLooseLetter c = true := by
  obtain ⟨w, ws, hspelling⟩ : ∃ w ws, u.spelling = w :: ws := by
    cases u <;> exact ⟨_, _, rfl⟩
  have halpha : w.isAlpha = true :=
    Text.isAlpha_of_isLower (MoneyUnit.isLower_of_mem_spelling w (hspelling ▸ List.mem_cons_self))
  unfold standsAt at h
  rw [hspelling] at h
  cases cs with
  | nil => exact absurd h Bool.false_ne_true
  | cons c ds =>
      refine ⟨c, ds, rfl, ?_⟩
      rw [dropLoose?] at h
      by_cases hlike : looksLike w c = true
      · exact Text.isLooseLetter_of_looksLike halpha hlike
      · rw [if_neg hlike] at h
        exact absurd h Bool.false_ne_true

/-- A unit is found exactly where one begins. -/
theorem unitAt_eq_nil_iff {text : List Char} : unitAt text = [] ↔ ¬ BeginsWithUnit text := by
  rw [unitAt, suffixAt_eq]
  cases hfind : MoneyUnit.all.find? (standsAt (text.dropWhile isBlank)) with
  | some u =>
      have hstands := List.find?_some hfind
      obtain ⟨c, cs, hcs, -⟩ := exists_cons_of_standsAt hstands
      have hbegins : BeginsWithUnit text := ⟨_, _, u, List.takeWhile_append_dropWhile.symm,
        List.all_eq_true.mp List.all_takeWhile, hstands⟩
      rw [hcs]
      refine iff_of_false ?_ (not_not_intro hbegins)
      cases u <;> exact List.cons_ne_nil _ _
  | none =>
      refine iff_of_true rfl ?_
      rintro ⟨gap, cs, u, rfl, hgap, hstands⟩
      obtain ⟨c, ds, rfl, hletter⟩ := exists_cons_of_standsAt hstands
      have hblank : ¬ isBlank c = true := fun hblank =>
        Bool.false_ne_true ((isLooseLetter_of_isBlank hblank).symm.trans hletter)
      rw [List.dropWhile_append_of_pos hgap, List.dropWhile_cons_of_neg hblank] at hfind
      exact List.find?_eq_none.mp hfind u (by cases u <;> decide) hstands

/-! ## Numerals -/

/-- The text goes on with a number: with a digit, or with a decimal point and a digit. -/
def GoesOn (text : List Char) : Prop :=
  ∃ c cs, text = c :: cs ∧ (isDigit c = true ∨ ((c = '.' ∨ c = ',') ∧ cs.head?.any isDigit = true))

theorem head?_of_not_goesOn (h : ¬ GoesOn rest) : rest.head?.any isDigit = false := by
  cases rest with
  | nil => rfl
  | cons c cs =>
      apply Bool.eq_false_iff.mpr
      intro hdigit
      exact h ⟨c, cs, rfl, .inl hdigit⟩

theorem fractionAt_of_not_goesOn (h : ¬ GoesOn rest) : fractionAt rest = [] := by
  cases rest with
  | nil => rfl
  | cons c cs =>
      rw [fractionAt]
      split
      · rename_i hpoint
        rw [Bool.or_eq_true, beq_iff_eq, beq_iff_eq] at hpoint
        cases cs with
        | nil => rfl
        | cons d ds =>
            apply List.takeWhile_cons_of_neg
            intro hdigit
            exact h ⟨c, d :: ds, rfl, .inr ⟨hpoint, hdigit⟩⟩
      · rfl

/-- Blanks and letters do not go on with a number. -/
theorem not_goesOn_of_isSpelled {gap : List Char} (hgap : ∀ c ∈ gap, isBlank c = true)
    (h : u.IsSpelled letters) (rest : List Char) : ¬ GoesOn (gap ++ (letters ++ rest)) := by
  rintro ⟨c, cs, hcs, hnumber⟩
  cases gap with
  | cons b bs =>
      obtain rfl : b = c := (List.cons.inj hcs).1
      have hblank : isBlank b = true := hgap b List.mem_cons_self
      rcases hnumber with hdigit | ⟨rfl | rfl, -⟩
      · exact nomatch hblank.symm.trans (Text.isBlank_of_isDigit hdigit)
      · exact absurd hblank (by decide)
      · exact absurd hblank (by decide)
  | nil =>
      obtain ⟨l, ls, rfl⟩ := List.exists_cons_of_ne_nil h.ne_nil
      obtain rfl : l = c := (List.cons.inj hcs).1
      have hletter := Text.isLooseLetter_of_isLower (h.isLower l List.mem_cons_self)
      rcases hnumber with hdigit | ⟨rfl | rfl, -⟩
      · exact nomatch hletter.symm.trans (Text.isLooseLetter_of_isDigit hdigit)
      · exact absurd hletter (by decide)
      · exact absurd hletter (by decide)

variable {numeral whole fraction : List Char}

theorem Numeral.head?_append (h : Numeral numeral whole fraction) (rest : List Char) :
    (numeral ++ rest).head?.any isDigit = true := by
  have hdigit {ds : List Char} (hne : ds ≠ []) (hds : ∀ d ∈ ds, isDigit d = true) (cs : List Char) :
      (ds ++ cs).head?.any isDigit = true := by
    rw [List.head?_append, List.head?_eq_some_head hne]
    exact hds _ (List.head_mem hne)
  cases h with
  | whole hne hdigits => exact hdigit hne hdigits rest
  | decimal hne hdigits => rw [List.append_assoc]; exact hdigit hne hdigits _

/-- A numeral is read as it is written, with the unit behind it. -/
theorem scan_append_of_numeral (h : Numeral numeral whole fraction) (hrest : ¬ GoesOn rest) :
    (scan (numeral ++ rest)).1 = ⟨whole, fraction, unitAt rest⟩ := by
  have hhead := head?_of_not_goesOn hrest
  have hdigits {ds : List Char} (hds : ∀ d ∈ ds, isDigit d = true) {cs : List Char}
      (hcs : cs.head?.any isDigit = false) :
      (ds ++ cs).takeWhile isDigit = ds ∧ (ds ++ cs).dropWhile isDigit = cs := by
    rw [List.takeWhile_append_of_pos hds, List.dropWhile_append_of_pos hds]
    have htake : cs.takeWhile isDigit = [] := by
      rw [← List.nil_append cs, Text.takeWhile_append_of_head? [] hcs]
      rfl
    exact ⟨by rw [htake, List.append_nil], Text.dropWhile_append_of_head? [] hcs⟩
  rw [scan_eq]
  cases h with
  | whole hne hwhole =>
      obtain ⟨htake, hdrop⟩ := hdigits hwhole hhead
      rw [htake, hdrop, fractionLength, fractionAt_of_not_goesOn hrest]
      rfl
  | @decimal _ _ point hne hwhole hpoint hfraction hdecimals =>
      have hstop : (point :: fraction ++ rest).head?.any isDigit = false := by
        rcases hpoint with rfl | rfl <;> rfl
      have hat : fractionAt (point :: fraction ++ rest) = fraction := by
        rw [List.cons_append, fractionAt, if_pos (by simpa using hpoint)]
        exact (hdigits hdecimals hhead).1
      have hlength : fractionLength (point :: fraction ++ rest) = (point :: fraction).length := by
        rw [fractionLength, hat, if_neg (by simpa using hfraction), List.length_cons, Nat.add_comm]
      rw [List.append_assoc, (hdigits hwhole hstop).1, (hdigits hwhole hstop).2, hat, hlength,
        List.drop_left]

/-! ## Texts before a number -/

/-- A character that binds a number behind it: a digit or a decimal point, with which a number may
go on, or the sign of a tag. -/
def isBinding (c : Char) : Bool := isDigit c || c == '#' || c == '.' || c == ','

/-- A fraction ends before the last character of a text if that is neither a digit nor a decimal
point. -/
theorem fractionAt_append_of_getLast? {front : List Char} {last : Char}
    (hlast : front.getLast? = some last)
    (hdigit : isDigit last = false) (hpoint : last ≠ '.' ∧ last ≠ ',') (back : List Char) :
    fractionAt (front ++ back) = fractionAt front := by
  cases front with
  | nil => exact nomatch hlast
  | cons c cs =>
      rw [List.cons_append, fractionAt, fractionAt]
      cases cs with
      | nil =>
          obtain rfl : c = last := Option.some.inj hlast
          simp [hpoint]
      | cons d ds =>
          rw [List.getLast?_cons_cons] at hlast
          rw [Text.takeWhile_append_of_getLast? hlast hdigit]

/-- A figure that begins before a number ends before it. -/
theorem scan_append_of_unbound {front back : List Char} (hne : front ≠ [])
    (hlast : front.getLast?.any isBinding = false) (hback : back.head?.any isDigit = true) :
    scan (front ++ back) = scan front := by
  have hend : front.getLast? = some (front.getLast hne) := List.getLast?_eq_some_getLast hne
  rw [hend] at hlast
  generalize front.getLast hne = last at hend hlast
  simp only [Option.any_some, isBinding, Bool.or_eq_false_iff, beq_eq_false_iff_ne] at hlast
  obtain ⟨⟨⟨hdigit, -⟩, hpoint⟩, hcomma⟩ := hlast
  -- the last character of the front is still there behind the digits
  have hrest : (front.dropWhile isDigit).getLast? = some last := by
    have hsplit := List.takeWhile_append_dropWhile (p := isDigit) (l := front)
    cases hdrop : front.dropWhile isDigit with
    | nil =>
        have hall := (Text.dropWhile_eq_nil front).mp hdrop last (List.mem_of_getLast? hend)
        exact nomatch hdigit.symm.trans hall
    | cons c cs =>
        rwa [← hsplit, hdrop, List.getLast?_append_of_ne_nil _ (List.cons_ne_nil c cs)] at hend
  have hletter : (back.dropWhile isBlank).head?.any isLooseLetter = false := by
    cases back with
    | nil => exact nomatch hback
    | cons c cs =>
        have hblank : isBlank c = false := Text.isBlank_of_isDigit hback
        rw [List.dropWhile_cons_of_neg (Bool.eq_false_iff.mp hblank)]
        exact Text.isLooseLetter_of_isDigit hback
  exact scan_append_of (Text.takeWhile_append_of_getLast? hend hdigit back)
    (Text.dropWhile_append_of_getLast? hend hdigit back)
    (fractionAt_append_of_getLast? hrest hdigit ⟨hpoint, hcomma⟩ back) hletter

/-- What does not bind a number lets a figure begin behind it. -/
theorem search_of_unbound {before : Option Char} (h : before.any isBinding = false)
    (cs : List Char) :
    search before cs = search none cs := by
  cases cs with
  | nil => rfl
  | cons c cs =>
      have hbefore : before.any (fun b => b == '#' || isDigit b) = false := by
        cases before with
        | none => rfl
        | some b =>
            simp only [Option.any_some, isBinding, Bool.or_eq_false_iff] at h ⊢
            exact ⟨h.1.1.2, h.1.1.1⟩
      rw [search, search, hbefore]
      rfl

/-- The figures of a text that goes on with a number are those before the number, and those from it
on. -/
theorem allIn_append_of_unbound {front back : List Char}
    (hlast : front.getLast?.any isBinding = false) (hback : back.head?.any isDigit = true) :
    allIn (front ++ back) = allIn front ++ allIn back := by
  have hstops : search.Stops front back := by
    refine stops_of_scan fun part hsuffix hhead => ?_
    have hne : part ≠ [] := by
      rintro rfl
      exact nomatch hhead
    obtain ⟨start, rfl⟩ := hsuffix
    rw [List.getLast?_append_of_ne_nil _ hne] at hlast
    exact scan_append_of_unbound hne hlast hback
  unfold allIn Text.finds
  rw [Text.pieces, Text.piecesFrom_append hstops none (Nat.zero_le _), Option.or_none,
    Text.piecesFrom_of_same (search_of_unbound hlast), List.filterMap_append]
  rfl

/-- A text that begins with a digit begins with a figure. -/
theorem exists_allIn_cons {cs : List Char} (h : cs.head?.any isDigit = true) :
    ∃ others, allIn cs = (scan cs).1 :: others := by
  cases cs with
  | nil => exact nomatch h
  | cons c cs =>
      have hfound : search none (c :: cs) = some ((scan (c :: cs)).1, (scan (c :: cs)).2 - 1) := by
        have hdigit : isDigit c = true := h
        rw [search, hdigit]
        rfl
      unfold allIn Text.finds
      rw [Text.pieces, Text.piecesFrom, hfound]
      exact ⟨_, rfl⟩

/-- A figure with a unit that is spelled is that many units. -/
theorem amount?_of_isSpelled (h : u.IsSpelled letters) (hpos : 0 < readDecimal whole fraction) :
    Figure.amount? ⟨whole, fraction, letters⟩ =
      .ok (some (readDecimal whole fraction * .ofNat u.size)) := by
  have hvalue : ¬ Figure.value ⟨whole, fraction, letters⟩ ≤ 0 := Binary64.not_le_of_lt hpos
  unfold amount?
  rw [if_neg (by simpa using h.ne_nil), if_neg hvalue]
  dsimp only
  rw [h.ofSpelling?]
  rfl

/-- A figure without a unit is an amount from a hundred on. -/
theorem amount?_of_bare (hleast : 100 ≤ readDecimal whole fraction) :
    Figure.amount? ⟨whole, fraction, []⟩ = .ok (some (readDecimal whole fraction)) := by
  have hsome :
      (if leastBare ≤ readDecimal whole fraction then some (readDecimal whole fraction) else none) =
      some (readDecimal whole fraction) := if_pos hleast
  exact congrArg Except.ok hsome

end Figure

namespace Amount

open Figure (Numeral GoesOn BeginsWithUnit isBinding scan_append_of_numeral)

variable {front numeral whole fraction : List Char}

/-- Behind a text that names no amount, the amount of a numeral is that of its figure. -/
theorem extract_append_of_numeral (hfront : extract front = .ok none)
    (hlast : front.getLast?.any isBinding = false) (hnumeral : Numeral numeral whole fraction)
    {rest : List Char} (hrest : ¬ GoesOn rest) {amount : Binary64}
    (hamount : Figure.amount? ⟨whole, fraction, Figure.unitAt rest⟩ = .ok (some amount)) :
    extract (front ++ (numeral ++ rest)) = .ok (some amount) := by
  have hhead := hnumeral.head?_append rest
  obtain ⟨others, hothers⟩ := Figure.exists_allIn_cons hhead
  have hnone : first? (Figure.allIn front) = .ok none := hfront
  rw [extract, Figure.allIn_append_of_unbound hlast hhead, first?_append, hnone,
    Reading.orElse_none, hothers, first?, scan_append_of_numeral hnumeral hrest, hamount]

/-- Amounts are read from every spelling.  The text before a number names no amount, and does not
end with a character that binds the number.  Then a positive number with a unit behind it, perhaps
behind blanks, is that many units, if no letter follows the unit; and a number of at least a hundred
that does not go on and has no unit behind it is itself. -/
theorem extract_of_spelled (hfront : extract front = .ok none)
    (hlast : front.getLast?.any isBinding = false) (hnumeral : Numeral numeral whole fraction) :
    (∀ gap letters rest u, (∀ c ∈ gap, isBlank c = true) → MoneyUnit.IsSpelled u letters →
      rest.head?.any isLooseLetter = false → 0 < readDecimal whole fraction →
        extract (front ++ (numeral ++ (gap ++ (letters ++ rest)))) =
          .ok (some (readDecimal whole fraction * .ofNat u.size))) ∧
    ∀ rest, ¬ GoesOn rest → ¬ BeginsWithUnit rest → 100 ≤ readDecimal whole fraction →
      extract (front ++ (numeral ++ rest)) = .ok (some (readDecimal whole fraction)) := by
  constructor
  · intro gap letters rest u hgap hspelled hrest hpos
    have hgoes : ¬ GoesOn (gap ++ (letters ++ rest)) :=
      Figure.not_goesOn_of_isSpelled hgap hspelled rest
    apply extract_append_of_numeral hfront hlast hnumeral hgoes
    rw [Figure.unitAt_of_isSpelled hgap hspelled hrest]
    exact Figure.amount?_of_isSpelled hspelled hpos
  · intro rest hgoes hunit hleast
    apply extract_append_of_numeral hfront hlast hnumeral hgoes
    rw [Figure.unitAt_eq_nil_iff.mpr hunit]
    exact Figure.amount?_of_bare hleast

/-- Millions with a decimal comma, and a hundred before what begins with the letter of a unit, both
behind a quantity, a tag and a zero that has a unit. -/
theorem extract_of_spelled_of_millions :
    extract "2 kopi #150 0k: 1,5 JT lunas".toList = .ok (some 1500000) ∧
      extract "2 kopi #150 0k: 100 kilo".toList = .ok (some 100) := by
  have hfront : extract "2 kopi #150 0k: ".toList = .ok none := by decide +kernel
  have hlast : "2 kopi #150 0k: ".toList.getLast?.any isBinding = false := by decide +kernel
  have hdecimal : Numeral ['1', ',', '5'] ['1'] ['5'] :=
    @Numeral.decimal ['1'] ['5'] ',' (by decide) (List.all_eq_true.mp rfl) (.inr rfl) (by decide)
      (List.all_eq_true.mp rfl)
  have hwhole : Numeral ['1', '0', '0'] ['1', '0', '0'] [] :=
    .whole (by decide) (List.all_eq_true.mp rfl)
  have hgoes : ¬ GoesOn " kilo".toList := by
    rintro ⟨c, cs, hcs, hnumber⟩
    obtain rfl : ' ' = c := (List.cons.inj hcs).1
    rcases hnumber with hdigit | ⟨hpoint | hcomma, -⟩
    · exact absurd hdigit (by decide)
    · exact absurd hpoint (by decide)
    · exact absurd hcomma (by decide)
  have hunit : ¬ BeginsWithUnit " kilo".toList := Figure.unitAt_eq_nil_iff.mp (by decide +kernel)
  have hmillions := (extract_of_spelled hfront hlast hdecimal).1 [' '] ['J', 'T']
    " lunas".toList .jt
    (List.all_eq_true.mp rfl) (by unfold MoneyUnit.IsSpelled; decide) (by decide +kernel)
      (by decide +kernel)
  have hvalue : readDecimal ['1'] ['5'] * .ofNat 1000000 = 1500000 := by decide +kernel
  have hhundred : readDecimal ['1', '0', '0'] [] = 100 := by decide +kernel
  have hbare := (extract_of_spelled hfront hlast hwhole).2 _ hgoes hunit (by decide +kernel)
  rw [MoneyUnit.size, hvalue] at hmillions
  rw [hhundred] at hbare
  exact ⟨hmillions, hbare⟩

end Amount

end BukuKas
