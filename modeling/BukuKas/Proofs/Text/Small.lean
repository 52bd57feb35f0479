import BukuKas.Number.Numeral
import BukuKas.Text.Blank
import BukuKas.Text.Case
import BukuKas.Text.Loose
import BukuKas.Text.Piece

/-!
# Texts up to the case of ASCII letters

Two texts that differ only in the case of ASCII letters have the same form in small letters.  So
whatever reads a text is compared for a text and its small form.  Most of what is asked of a
character has the same answer for a capital letter and its small one, and that is checked for the 26
letters.  Whatever is built from such questions then commutes with making letters small: cutting,
dividing into words, spelling, searching.  The lower case of a text is even the same as that of its
small form, also where letters beyond ASCII stand in it.

## Main results

* `apply_toLower` : what is the same for 26 letters is the same for all characters.
* `traits_toLower` : a capital letter is what its small one is, but for its own case.
* `lower_small` : the lower case of the small form.
* `Search.IgnoresCase.finds_small`, `Search.IgnoresCase.withoutFinds_small` : searches that ignore
  case.
-/

namespace BukuKas.Text

/-! ## Characters -/

/-- What is the same for the capital letters and their small ones does not depend on the case of
ASCII letters. -/
theorem apply_toLower {α : Type} {f : Char → α}
    (h : ∀ n < 26, f (Char.ofNat (97 + n)) = f (Char.ofNat (65 + n))) (c : Char) :
    f c.toLower = f c := by
  have hletters : ∀ n < 26, (Char.ofNat (65 + n)).toLower = Char.ofNat (97 + n) := by decide
  by_cases hupper : 65 ≤ c.toNat ∧ c.toNat ≤ 90
  · have hc : Char.ofNat (65 + (c.toNat - 65)) = c := by
      rw [Nat.add_sub_cancel' hupper.1, Char.ofNat_toNat]
    have hn : c.toNat - 65 < 26 := by omega
    have hsame := h _ hn
    rwa [← hletters _ hn, hc] at hsame
  · have hc : c.toLower = c := by
      unfold Char.toLower
      rw [dif_neg]
      exact hupper
    rw [hc]

theorem toLower_toLower (c : Char) : c.toLower.toLower = c.toLower :=
  apply_toLower (f := Char.toLower) (by decide) c

/-- What is asked of a character by what reads a text. -/
structure Traits where
  blank : Bool
  digit : Option Nat
  word : Bool
  letter : Bool
  lower : List Char
  upper : List Char
  mark : Bool
  cased : Bool
  deriving DecidableEq

/-- What the character is and what it becomes in the other case. -/
def traits (c : Char) : Traits where
  blank := isBlank c
  digit := digitValue? c
  word := isWordChar c
  letter := isLooseLetter c
  lower := lowerChar c
  upper := upperChar c
  mark := inSpans caselessMarkSpans c.toNat
  cased := inSpans casedSpans c.toNat

/-- A capital letter and its small one are told apart by none of them. -/
theorem traits_toLower (c : Char) : traits c.toLower = traits c :=
  apply_toLower (by decide +kernel) c

theorem isBlank_toLower (c : Char) : isBlank c.toLower = isBlank c :=
  congrArg Traits.blank (traits_toLower c)

theorem digitValue?_toLower (c : Char) : digitValue? c.toLower = digitValue? c :=
  congrArg Traits.digit (traits_toLower c)

theorem isDigit_toLower (c : Char) : isDigit c.toLower = isDigit c := by
  rw [isDigit, digitValue?_toLower, isDigit]

theorem digitValue_toLower (c : Char) : digitValue c.toLower = digitValue c := by
  rw [digitValue, digitValue?_toLower, digitValue]

theorem isWordChar_toLower (c : Char) : isWordChar c.toLower = isWordChar c :=
  congrArg Traits.word (traits_toLower c)

theorem isLooseLetter_toLower (c : Char) : isLooseLetter c.toLower = isLooseLetter c :=
  congrArg Traits.letter (traits_toLower c)

theorem lowerChar_toLower (c : Char) : lowerChar c.toLower = lowerChar c :=
  congrArg Traits.lower (traits_toLower c)

theorem upperChar_toLower (c : Char) : upperChar c.toLower = upperChar c :=
  congrArg Traits.upper (traits_toLower c)

/-- Whether a character is one that is no ASCII letter does not depend on case. -/
theorem beq_toLower {d : Char}
    (hd : ∀ n < 26, (Char.ofNat (97 + n) == d) = (Char.ofNat (65 + n) == d))
    (c : Char) : (c.toLower == d) = (c == d) := apply_toLower (f := (· == d)) hd c

theorem toLower_ne {d : Char}
    (hd : ∀ n < 26, (Char.ofNat (97 + n) == d) = (Char.ofNat (65 + n) == d))
    {c : Char} (h : c ≠ d) : c.toLower ≠ d := by
  have hsame := beq_toLower hd c
  rw [beq_false_of_ne h] at hsame
  exact ne_of_beq_false hsame

theorem looksLike_toLower (letter c : Char) : looksLike letter c.toLower = looksLike letter c := by
  unfold looksLike
  rw [toLower_toLower, beq_toLower (d := '\u0130') (by decide),
    beq_toLower (d := '\u0131') (by decide), beq_toLower (d := '\u017F') (by decide),
    beq_toLower (d := '\u212A') (by decide)]

/-! ## Texts -/

/-- The text with its ASCII letters made small. -/
def small (cs : List Char) : List Char := cs.map Char.toLower

@[simp] theorem small_nil : small [] = [] := rfl

@[simp] theorem small_cons (c : Char) (cs : List Char) : small (c :: cs) = c.toLower :: small cs :=
  rfl

@[simp] theorem small_append (cs ds : List Char) : small (cs ++ ds) = small cs ++ small ds :=
  List.map_append

@[simp] theorem length_small (cs : List Char) : (small cs).length = cs.length := List.length_map _

@[simp] theorem reverse_small (cs : List Char) : (small cs).reverse = small cs.reverse :=
  List.map_reverse.symm

@[simp] theorem isEmpty_small (cs : List Char) : (small cs).isEmpty = cs.isEmpty := List.isEmpty_map

theorem small_small (cs : List Char) : small (small cs) = small cs := by
  unfold small
  rw [List.map_map, show Char.toLower ∘ Char.toLower = Char.toLower from funext toLower_toLower]

theorem toLower_ofList (cs : List Char) :
    (String.ofList cs).toLower = String.ofList (small cs) := by
  have hlist : (String.ofList cs).toLower.toList = (String.ofList cs).toList.map Char.toLower :=
    String.toList_map
  rw [← String.toList_inj, hlist, String.toList_ofList, String.toList_ofList, small]

theorem toLower_ofList_small (cs : List Char) :
    (String.ofList (small cs)).toLower = (String.ofList cs).toLower := by
  rw [toLower_ofList, toLower_ofList, small_small]

theorem head?_small (cs : List Char) : (small cs).head? = cs.head?.map Char.toLower :=
  List.head?_map

theorem any_toLower {p : Char → Bool} (hp : ∀ c, p c.toLower = p c) (o : Option Char) :
    (o.map Char.toLower).any p = o.any p := by
  cases o with
  | none => rfl
  | some c => exact hp c

theorem takeWhile_small {p : Char → Bool} (hp : ∀ c, p c.toLower = p c) (cs : List Char) :
    (small cs).takeWhile p = small (cs.takeWhile p) := by
  rw [small, List.takeWhile_map, show p ∘ Char.toLower = p from funext hp, small]

theorem dropWhile_small {p : Char → Bool} (hp : ∀ c, p c.toLower = p c) (cs : List Char) :
    (small cs).dropWhile p = small (cs.dropWhile p) := by
  rw [small, List.dropWhile_map, show p ∘ Char.toLower = p from funext hp, small]

theorem filter_small {p : Char → Bool} (hp : ∀ c, p c.toLower = p c) (cs : List Char) :
    (small cs).filter p = small (cs.filter p) := by
  rw [small, List.filter_map, show p ∘ Char.toLower = p from funext hp, small]

theorem contains_small {d : Char} (hd : ∀ c : Char, (c.toLower == d) = (c == d)) (cs : List Char) :
    (small cs).contains d = cs.contains d := by
  induction cs with
  | nil => rfl
  | cons c cs ih =>
      rw [small_cons, List.contains_cons, List.contains_cons, ih, Bool.beq_comm, hd, Bool.beq_comm]

theorem stripEnds_small {p : Char → Bool} (hp : ∀ c, p c.toLower = p c) (cs : List Char) :
    stripEnds p (small cs) = small (stripEnds p cs) := by
  unfold stripEnds
  rw [dropWhile_small hp, reverse_small, dropWhile_small hp, reverse_small]

theorem trim_small (cs : List Char) : trim (small cs) = small (trim cs) :=
  stripEnds_small isBlank_toLower cs

theorem wordsFrom_small (word cs : List Char) :
    wordsFrom (small word) (small cs) = (wordsFrom word cs).map small := by
  induction cs generalizing word with
  | nil =>
      cases word with
      | nil => rfl
      | cons w ws => exact congrArg (· :: []) (reverse_small (w :: ws))
  | cons c cs ih =>
      cases word with
      | nil =>
          rw [small_cons, small_nil, wordsFrom, wordsFrom, isBlank_toLower, ← small_nil, ih,
            ← small_cons, ih]
          split <;> rfl
      | cons w ws =>
          have hword := ih (c :: w :: ws)
          have hnew := ih []
          rw [small_nil] at hnew
          rw [small_cons, small_cons, wordsFrom, wordsFrom, isBlank_toLower, ← small_cons,
            ← small_cons, hword, reverse_small, hnew]
          split <;> rfl

theorem words_small (cs : List Char) : words (small cs) = (words cs).map small :=
  wordsFrom_small [] cs

theorem intercalate_small (sep : List Char) (parts : List (List Char)) :
    (small sep).intercalate (parts.map small) = small (sep.intercalate parts) := by
  induction parts with
  | nil => rfl
  | cons part parts ih =>
      cases parts with
      | nil => simp
      | cons next parts =>
          rw [List.map_cons] at ih
          rw [List.map_cons, List.map_cons, List.intercalate_cons_cons, List.intercalate_cons_cons,
            ih, small_append, small_append]

theorem splitLastWord?_small (cs : List Char) :
    splitLastWord? (small cs) = (splitLastWord? cs).map (Prod.map small small) := by
  have hink (c : Char) : (!isBlank c.toLower) = !isBlank c := congrArg (!·) (isBlank_toLower c)
  unfold splitLastWord?
  dsimp only
  rw [reverse_small, dropWhile_small isBlank_toLower, takeWhile_small hink, dropWhile_small hink,
    dropWhile_small isBlank_toLower, isEmpty_small, reverse_small, reverse_small]
  split <;> rfl

theorem dropLoose?_small (word cs : List Char) :
    dropLoose? word (small cs) = (dropLoose? word cs).map small := by
  induction word generalizing cs with
  | nil => simp
  | cons w ws ih =>
      cases cs with
      | nil => rfl
      | cons c cs =>
          rw [small_cons, dropLoose?, dropLoose?, looksLike_toLower, ih]
          split <;> rfl

theorem drop_small (n : Nat) (cs : List Char) : (small cs).drop n = small (cs.drop n) :=
  List.map_drop.symm

theorem take_small (n : Nat) (cs : List Char) : (small cs).take n = small (cs.take n) :=
  List.map_take.symm

/-! ## Lower case -/

theorem nextIsCased_small (cs : List Char) : nextIsCased (small cs) = nextIsCased cs := by
  have hmark (c : Char) : inSpans caselessMarkSpans c.toLower.toNat =
      inSpans caselessMarkSpans c.toNat :=
    congrArg Traits.mark (traits_toLower c)
  have hcased (c : Char) : inSpans casedSpans c.toLower.toNat = inSpans casedSpans c.toNat :=
    congrArg Traits.cased (traits_toLower c)
  unfold nextIsCased
  rw [dropWhile_small (p := fun c => inSpans caselessMarkSpans c.toNat) hmark]
  cases cs.dropWhile fun c => inSpans caselessMarkSpans c.toNat with
  | nil => rfl
  | cons c rest => exact hcased c

theorem lowerFrom_small (before cs : List Char) :
    lowerFrom (small before) (small cs) = lowerFrom before cs := by
  induction cs generalizing before with
  | nil => rfl
  | cons c cs ih =>
      rw [small_cons, lowerFrom, lowerFrom, beq_toLower (by decide), nextIsCased_small,
        nextIsCased_small, lowerChar_toLower, ← small_cons, ih]

/-- The lower case of a text does not depend on the case of its ASCII letters. -/
theorem lower_small (cs : List Char) : lower (small cs) = lower cs := lowerFrom_small [] cs

/-- Letters that are made large are no others in another case. -/
theorem small_capitalize_small (cs : List Char) :
    small (capitalize (small cs)) = small (capitalize cs) := by
  cases cs with
  | nil => rfl
  | cons c cs =>
      rw [small_cons, capitalize, capitalize, upperChar_toLower, small_append,
        small_append, small_small]

/-! ## Searches -/

variable {α : Type} {search : Search α} {g : α → α}

/-- The find of a text in small letters is that of the text, changed by a function. -/
def Search.IgnoresCase (search : Search α) (g : α → α) : Prop :=
  ∀ before cs, search (before.map Char.toLower) (small cs) = (search before cs).map (Prod.map g id)

/-- The piece in small letters. -/
def Piece.small (g : α → α) : Piece α → Piece α
  | .plain c => .plain c.toLower
  | .found find => .found (g find)

namespace Search.IgnoresCase

theorem piecesFrom_small (h : search.IgnoresCase g) (before : Option Char) (skip : Nat)
    (cs : List Char) :
    piecesFrom search (before.map Char.toLower) skip (Text.small cs) =
      (piecesFrom search before skip cs).map (Piece.small g) := by
  induction cs generalizing before skip with
  | nil => rfl
  | cons c cs ih =>
      cases skip with
      | succ skip => exact ih (some c) skip
      | zero =>
          have hsearch := h before (c :: cs)
          rw [small_cons] at hsearch
          rw [small_cons, piecesFrom, piecesFrom, hsearch]
          cases search before (c :: cs) with
          | none => exact congrArg (Piece.plain c.toLower :: ·) (ih (some c) 0)
          | some found => exact congrArg (Piece.found (g found.1) :: ·) (ih (some c) found.2)

/-- The finds do not depend on case. -/
theorem finds_small (h : search.IgnoresCase g) (cs : List Char) :
    finds search (Text.small cs) = (finds search cs).map g := by
  have hpieces : pieces search (Text.small cs) = (pieces search cs).map (Piece.small g) :=
    h.piecesFrom_small none 0 cs
  rw [finds, finds, hpieces, List.filterMap_map, List.map_filterMap]
  congr 1
  funext piece
  cases piece <;> rfl

/-- What lies between the finds is the same up to case. -/
theorem withoutFinds_small (h : search.IgnoresCase g) (cs : List Char) :
    withoutFinds search (Text.small cs) = Text.small (withoutFinds search cs) := by
  have hpieces : pieces search (Text.small cs) = (pieces search cs).map (Piece.small g) :=
    h.piecesFrom_small none 0 cs
  rw [withoutFinds, withoutFinds, hpieces, List.filterMap_map, Text.small, List.map_filterMap]
  congr 1
  funext piece
  cases piece <;> rfl

end Search.IgnoresCase

end BukuKas.Text
