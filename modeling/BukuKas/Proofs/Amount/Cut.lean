import BukuKas.Amount
import BukuKas.Proofs.Text.Cut
import BukuKas.Proofs.Text.Digits

/-!
# Figures of a text that is cut

A figure is looked for in a text, not in a part of it: what stands before a digit decides whether a
figure begins there, and what stands behind one decides where it ends and whether it has a unit.
Yet a text may be cut where no figure goes on.  `Figure.Ends` says of a cut that the back continues
none of the three parts of a figure, its digits, its fraction and its unit; then each part is the
same with or without the back, and so is the whole figure.

## Main results

* `Figure.scan_append` : a figure of the front is the same in the whole text.
* `Figure.allIn_append` : the figures of a text are those of its front and those of its back.
* `Figure.allIn_trim` : trimming keeps the figures.
-/

namespace BukuKas

open Text (isDigit isBlank isLooseLetter dropLoose? trim)
open Number (Binary64)

namespace Figure

/-! ## Where figures end -/

/-- No figure of the front goes on in the back: the back begins with no digit, with no decimal point
behind a digit, and with no letter, not even behind blanks. -/
structure Ends (front back : List Char) : Prop where
  digit : back.head?.any isDigit = false
  point : front.getLast?.any isDigit = true → fractionAt back = []
  letter : (back.dropWhile isBlank).head?.any isLooseLetter = false

theorem isLooseLetter_of_isBlank {c : Char} (h : isBlank c = true) : isLooseLetter c = false := by
  have hall : Text.blankNumbers.all (fun n => !isLooseLetter (Char.ofNat n)) = true := by
    decide +kernel
  have hc := Text.of_isBlank (p := fun c => !isLooseLetter c) hall h
  rwa [Bool.not_eq_true'] at hc

theorem head?_of_head?_dropWhile {cs : List Char}
    (h : (cs.dropWhile isBlank).head?.any isLooseLetter = false) :
    cs.head?.any isLooseLetter = false := by
  cases cs with
  | nil => rfl
  | cons c cs =>
      by_cases hblank : isBlank c = true
      · exact isLooseLetter_of_isBlank hblank
      · rwa [List.dropWhile_cons_of_neg hblank] at h

theorem Ends.of_suffix {front back part : List Char} (h : Ends front back) (hne : part ≠ [])
    (hpart : part <:+ front) : Ends part back where
  digit := h.digit
  point hlast := by
    obtain ⟨start, rfl⟩ := hpart
    apply h.point
    rwa [List.getLast?_append, List.getLast?_eq_some_getLast hne] at *
  letter := h.letter

/-! ## Fractions -/

/-- The number of characters that a fraction at the head of the text holds, with its point. -/
def fractionLength (cs : List Char) : Nat :=
  (if (fractionAt cs).isEmpty then 0 else 1) + (fractionAt cs).length

theorem fractionLength_le (cs : List Char) : fractionLength cs ≤ cs.length := by
  cases cs with
  | nil => exact Nat.le_refl 0
  | cons c cs =>
      have hdigits : (fractionAt (c :: cs)).length ≤ cs.length := by
        rw [fractionAt]
        split
        · exact (List.takeWhile_prefix isDigit).length_le
        · exact Nat.zero_le _
      rw [fractionLength, List.length_cons]
      split <;> omega

theorem fractionAt_append {front back : List Char} (hdigit : back.head?.any isDigit = false)
    (hpoint : front = [] → fractionAt back = []) :
    fractionAt (front ++ back) = fractionAt front := by
  cases front with
  | nil => exact hpoint rfl
  | cons c cs =>
      rw [List.cons_append, fractionAt, fractionAt, Text.takeWhile_append_of_head? cs hdigit]

/-! ## Units -/

/-- The letters of a unit behind blanks. -/
def unitAt (cs : List Char) : List Char :=
  suffixAt (cs.dropWhile isBlank)

/-- The number of characters that a unit holds, with the blanks before it. -/
def unitLength (cs : List Char) : Nat :=
  if (unitAt cs).isEmpty then 0 else (cs.takeWhile isBlank).length + (unitAt cs).length

theorem length_suffixAt_le (cs : List Char) : (suffixAt cs).length ≤ cs.length := by
  unfold suffixAt
  dsimp only
  split
  · exact List.length_take_le' _ _
  · exact Nat.zero_le _

theorem unitLength_le (cs : List Char) : unitLength cs ≤ cs.length := by
  have hsplit := congrArg List.length (List.takeWhile_append_dropWhile (p := isBlank) (l := cs))
  have hsuffix := length_suffixAt_le (cs.dropWhile isBlank)
  rw [List.length_append] at hsplit
  unfold unitLength unitAt
  split <;> omega

/-- Whether the unit stands at the head of the text, and no letter follows it. -/
def standsAt (cs : List Char) (u : MoneyUnit) : Bool :=
  match dropLoose? u.spelling cs with
  | some rest => !rest.head?.any isLooseLetter
  | none => false

theorem suffixAt_eq (cs : List Char) : suffixAt cs =
    match MoneyUnit.all.find? (standsAt cs) with
    | some u => cs.take u.spelling.length
    | none => [] := rfl

theorem length_of_standsAt {cs : List Char} {u : MoneyUnit} (h : standsAt cs u = true) :
    u.spelling.length ≤ cs.length := by
  unfold standsAt at h
  split at h
  · rename_i rest hrest
    have hlength := Text.length_of_dropLoose? hrest
    omega
  · exact nomatch h

/-- A unit of the front stands in the whole text too, if the back begins with no letter. -/
theorem standsAt_append (front : List Char) {back : List Char}
    (h : back.head?.any isLooseLetter = false) : standsAt (front ++ back) = standsAt front := by
  funext u
  have hspelling : u.spelling.all Char.isAlpha = true := by
    cases u <;> rfl
  have hends (rest : List Char) :
      (rest ++ back).head?.any isLooseLetter = rest.head?.any isLooseLetter := by
    cases rest with
    | nil => exact h
    | cons c cs => rfl
  unfold standsAt
  rw [Text.dropLoose?_append_of_head? (List.all_eq_true.mp hspelling) front h]
  cases dropLoose? u.spelling front with
  | none => rfl
  | some rest => exact congrArg (!·) (hends rest)

theorem suffixAt_append (front : List Char) {back : List Char}
    (h : back.head?.any isLooseLetter = false) : suffixAt (front ++ back) = suffixAt front := by
  rw [suffixAt_eq, suffixAt_eq, standsAt_append front h]
  cases hfind : MoneyUnit.all.find? (standsAt front) with
  | none => rfl
  | some u => exact List.take_append_of_le_length (length_of_standsAt (List.find?_some hfind))

theorem unitAt_append (front : List Char) {back : List Char}
    (h : (back.dropWhile isBlank).head?.any isLooseLetter = false) :
    unitAt (front ++ back) = unitAt front := by
  unfold unitAt
  rw [List.dropWhile_append]
  split
  · rename_i hempty
    have hnil := suffixAt_append [] h
    rw [List.nil_append] at hnil
    rw [hnil, List.isEmpty_iff.mp hempty]
  · exact suffixAt_append _ (head?_of_head?_dropWhile h)

theorem unitLength_append (front : List Char) {back : List Char}
    (h : (back.dropWhile isBlank).head?.any isLooseLetter = false) :
    unitLength (front ++ back) = unitLength front := by
  unfold unitLength
  rw [unitAt_append front h]
  split
  · rfl
  · rename_i hunit
    -- the blanks before the unit lie in the front, since the unit does
    have hletters : ¬ ∀ c ∈ front, isBlank c = true := by
      intro hblank
      apply hunit
      rw [unitAt, (Text.dropWhile_eq_nil front).mpr hblank]
      rfl
    rw [List.takeWhile_append, if_neg]
    intro hlength
    apply hletters
    rw [← (List.takeWhile_prefix isBlank).eq_of_length hlength]
    exact List.all_eq_true.mp List.all_takeWhile

/-! ## One figure -/

/-- A figure is a run of digits, then a fraction, then a unit. -/
theorem scan_eq (cs : List Char) : scan cs =
    (⟨cs.takeWhile isDigit, fractionAt (cs.dropWhile isDigit),
        unitAt ((cs.dropWhile isDigit).drop (fractionLength (cs.dropWhile isDigit)))⟩,
      (cs.takeWhile isDigit).length + fractionLength (cs.dropWhile isDigit) +
        unitLength ((cs.dropWhile isDigit).drop (fractionLength (cs.dropWhile isDigit)))) := by
  unfold scan unitLength unitAt fractionLength
  simp only [Text.drop_takeWhile, Nat.add_assoc]

/-- A figure does not hold more characters than the text. -/
theorem length_scan_le (cs : List Char) : (scan cs).2 ≤ cs.length := by
  have hsplit := congrArg List.length (List.takeWhile_append_dropWhile (p := isDigit) (l := cs))
  have hfraction := fractionLength_le (cs.dropWhile isDigit)
  have hunit := unitLength_le ((cs.dropWhile isDigit).drop (fractionLength (cs.dropWhile isDigit)))
  rw [List.length_append] at hsplit
  rw [List.length_drop] at hunit
  rw [scan_eq]
  dsimp only
  omega

/-- A figure at the head of the front is the same in the whole text, if its digits and its fraction
end in the front and the back begins with no letter. -/
theorem scan_append_of {front back : List Char}
    (hdigits : (front ++ back).takeWhile isDigit = front.takeWhile isDigit)
    (hrest : (front ++ back).dropWhile isDigit = front.dropWhile isDigit ++ back)
    (hfraction : fractionAt (front.dropWhile isDigit ++ back) =
      fractionAt (front.dropWhile isDigit))
    (hletter : (back.dropWhile isBlank).head?.any isLooseLetter = false) :
    scan (front ++ back) = scan front := by
  have hlength : fractionLength (front.dropWhile isDigit ++ back) =
      fractionLength (front.dropWhile isDigit) := by
    rw [fractionLength, hfraction, fractionLength]
  have hdrop : (front.dropWhile isDigit ++ back).drop (fractionLength (front.dropWhile isDigit)) =
      (front.dropWhile isDigit).drop (fractionLength (front.dropWhile isDigit)) ++ back :=
    List.drop_append_of_le_length (fractionLength_le (front.dropWhile isDigit))
  rw [scan_eq, scan_eq, hdigits, hrest, hfraction, hlength, hdrop, unitAt_append _ hletter,
    unitLength_append _ hletter]

/-- A figure at the head of the front is the same in the whole text. -/
theorem scan_append {front back : List Char} (hhead : front.head?.any isDigit = true)
    (h : Ends front back) : scan (front ++ back) = scan front := by
  have hne : front ≠ [] := by
    rintro rfl
    exact nomatch hhead
  have hpoint : front.dropWhile isDigit = [] → fractionAt back = [] := by
    intro hdigits
    apply h.point
    rw [List.getLast?_eq_some_getLast hne]
    exact (Text.dropWhile_eq_nil front).mp hdigits _ (List.getLast_mem hne)
  exact scan_append_of (Text.takeWhile_append_of_head? front h.digit)
    (Text.dropWhile_append_of_head? front h.digit) (fractionAt_append h.digit hpoint) h.letter

/-! ## All figures -/

/-- The search for figures stops where each figure of the front is the same in the whole text. -/
theorem stops_of_scan {front back : List Char}
    (h : ∀ part, part <:+ front → part.head?.any isDigit = true → scan (part ++ back) = scan part) :
    search.Stops front back where
  same before c cs hsuffix := by
    rw [search, search]
    split
    · rename_i hstart
      rw [Bool.and_eq_true] at hstart
      have hhead : (c :: cs).head?.any isDigit = true := hstart.1
      rw [← List.cons_append, h _ hsuffix hhead]
    · rfl
  inside before c cs find more hsuffix hfound := by
    rw [search] at hfound
    split at hfound
    · injection hfound with hfound
      have hmore : (scan (c :: cs)).2 - 1 = more := (Prod.mk.inj hfound).2
      have hlength := length_scan_le (c :: cs)
      rw [List.length_cons] at hlength
      omega
    · exact nomatch hfound

/-- The search for figures stops where figures end. -/
theorem Ends.stops {front back : List Char} (h : Ends front back) : search.Stops front back := by
  refine stops_of_scan fun part hsuffix hhead => scan_append hhead (h.of_suffix ?_ hsuffix)
  rintro rfl
  exact nomatch hhead

/-- The character neither begins a figure nor keeps one from beginning behind it. -/
structure IsInert (c : Char) : Prop where
  digit : isDigit c = false
  sign : c ≠ '#'

theorem isInert_comma : IsInert ',' := ⟨by decide, by decide⟩

theorem isInert_of_isBlank {c : Char} (h : isBlank c = true) : IsInert c where
  digit := by
    apply Bool.eq_false_iff.mpr
    intro hdigit
    exact nomatch h.symm.trans (Text.isBlank_of_isDigit hdigit)
  sign := by
    rintro rfl
    exact absurd h (by decide)

theorem search_of_isInert {c : Char} (hc : IsInert c) (before : Option Char) (cs : List Char) :
    search before (c :: cs) = none := by
  rw [search, hc.digit]
  rfl

/-- Behind such a character the search begins anew. -/
theorem search_behind_isInert {c : Char} (hc : IsInert c) (cs : List Char) :
    search (some c) cs = search none cs := by
  cases cs with
  | nil => rfl
  | cons d ds =>
      have hbefore : (some c).any (fun b => b == '#' || isDigit b) = false := by
        simp [hc.sign, hc.digit]
      rw [search, search, hbefore]
      rfl

/-- The figures of a text that is cut where its figures end. -/
theorem allIn_append {front back : List Char} {c : Char} (h : Ends front (c :: back))
    (hc : IsInert c) :
    allIn (front ++ c :: back) = allIn front ++ allIn back := by
  have hback : Text.piecesFrom search (front.getLast?.or none) 0 (c :: back) =
      .plain c :: Text.pieces search back := by
    rw [Text.piecesFrom, search_of_isInert hc]
    exact congrArg (Text.Piece.plain c :: ·)
      (Text.piecesFrom_of_same (search_behind_isInert hc) back)
  unfold allIn Text.finds
  rw [Text.pieces, Text.piecesFrom_append h.stops none (Nat.zero_le _), hback,
    List.filterMap_append]
  rfl

/-- Figures end before blanks that no letter follows. -/
theorem ends_blanks_append (front : List Char) {blanks back : List Char} (hne : blanks ≠ [])
    (h : ∀ c ∈ blanks, isBlank c = true)
    (hletter : (back.dropWhile isBlank).head?.any isLooseLetter = false) :
    Ends front (blanks ++ back) := by
  obtain ⟨c, cs, rfl⟩ := List.exists_cons_of_ne_nil hne
  have hc : isBlank c = true := h c List.mem_cons_self
  have hpoint : c ≠ '.' ∧ c ≠ ',' := by
    constructor <;> (rintro rfl; exact absurd hc (by decide))
  exact {
    digit := (isInert_of_isBlank hc).digit
    point := fun _ => by simp [fractionAt, hpoint]
    letter := by rwa [List.dropWhile_append_of_pos h] }

theorem ends_blanks (front : List Char) {blanks : List Char} (h : ∀ c ∈ blanks, isBlank c = true) :
    Ends front blanks := by
  cases blanks with
  | nil => exact ⟨rfl, fun _ => rfl, rfl⟩
  | cons c cs =>
      have hends : Ends front (c :: cs ++ []) :=
        ends_blanks_append front (List.cons_ne_nil c cs) h rfl
      rwa [List.append_nil] at hends

theorem passesBlanks : search.PassesBlanks where
  nothing before _ cs h := search_of_isInert (isInert_of_isBlank h) before cs
  anew _ cs h := search_behind_isInert (isInert_of_isBlank h) cs
  stops cs _ h := (ends_blanks cs h).stops

/-- Trimming keeps the figures. -/
theorem allIn_trim (cs : List Char) : allIn (trim cs) = allIn cs := passesBlanks.finds_trim cs

end Figure

/-- Trimming keeps the amount. -/
theorem Amount.extract_trim (cs : List Char) : extract (trim cs) = extract cs :=
  congrArg first? (Figure.allIn_trim cs)

end BukuKas
