import BukuKas.Category
import BukuKas.Proofs.Text.Edge
import Mathlib.Data.List.Basic
import Mathlib.Data.List.Find

/-!
# The keywords of the categories

A text belongs to the first category with a keyword in it.  So a keyword between texts without
keywords decides alone, once it is known that no keyword arises where the texts meet: they meet at
spaces, and of the two keywords that hold a space no other keyword has the first word at its end or
the second at its beginning.  What is left is whether an earlier category has a keyword inside the
one that stands there.  One keyword of a hundred has: the one for donations ends with the one for
rice, so a donation is always taken for food.

## Main results

* `Text.infix_join` : what stands in a text that is joined at a space.
* `Category.detect_between` : between texts without keywords a text keeps its category.
* `Category.detect_keyword` : the category of each keyword.
-/

namespace BukuKas

/-! ## Texts joined at a character -/

namespace Text

variable {needle front back part : List Char} {c : Char}

/-- A text that stands in two joined ones stands in one of them, or across the character that joins
them. -/
theorem infix_join (h : needle <:+: front ++ c :: back) : needle <:+: front ∨ needle <:+: back ∨
    ∃ before after, needle = before ++ c :: after ∧ before <:+ front ∧ after <+: back := by
  rcases List.infix_append_iff.mp h with hfront | hback | ⟨before, rest, rfl, hbefore, hrest⟩
  · exact .inl hfront
  · rcases List.infix_cons_iff.mp hback with hbegins | hinside
    · rcases List.prefix_cons_iff.mp hbegins with rfl | ⟨after, rfl, hafter⟩
      · exact .inl List.nil_infix
      · exact .inr (.inr ⟨[], after, rfl, List.nil_suffix, hafter⟩)
    · exact .inr (.inl hinside)
  · rcases List.prefix_cons_iff.mp hrest with rfl | ⟨after, rfl, hafter⟩
    · rw [List.append_nil]
      exact .inl hbefore.isInfix
    · exact .inr (.inr ⟨before, after, rfl, hbefore, hafter⟩)

/-- A beginning that the joining character is not in lies before it. -/
theorem prefix_of_prefix_join (h : part <+: front ++ c :: back) (hc : c ∉ part) :
    part <+: front := by
  rcases List.prefix_or_prefix_of_prefix h (List.prefix_append front (c :: back))
    with hpart | ⟨rest, rfl⟩
  · exact hpart
  · rw [List.prefix_append_right_inj] at h
    rcases List.prefix_cons_iff.mp h with rfl | ⟨more, rfl, -⟩
    · simp
    · exact absurd (by simp) hc

/-! ## Texts as sets of characters -/

/-- The characters of a text as the bits of one number. -/
def bits (cs : List Char) : Nat := cs.foldr (fun c n => n ||| 1 <<< c.toNat) 0

theorem testBit_bits (cs : List Char) (i : Nat) :
    (bits cs).testBit i = cs.any fun c => c.toNat == i := by
  induction cs with
  | nil => exact Nat.zero_testBit i
  | cons c cs ih =>
      have hstep : bits (c :: cs) = bits cs ||| 1 <<< c.toNat := rfl
      have hbit : (c.toNat == i) = decide (c.toNat = i) := rfl
      rw [hstep, Nat.testBit_or, ih, Nat.one_shiftLeft, Nat.testBit_two_pow, List.any_cons,
        hbit, Bool.or_comm]

/-- A text that stands in another has no further characters, which two numbers tell without reading
either. -/
theorem contains_eq_and_bits (needle cs : List Char) :
    contains needle cs = ((bits needle &&& bits cs == bits needle) && contains needle cs) := by
  by_cases h : contains needle cs = true
  · have hsubset : needle ⊆ cs := (contains_eq_true_iff.mp h).subset
    have hbits : bits needle &&& bits cs = bits needle := by
      apply Nat.eq_of_testBit_eq
      intro i
      rw [Nat.testBit_and, testBit_bits, testBit_bits, Bool.and_eq_left_iff_imp, List.any_eq_true,
        List.any_eq_true]
      rintro ⟨c, hc, hi⟩
      exact ⟨c, hsubset hc, hi⟩
    rw [hbits, beq_self_eq_true, Bool.true_and]
  · rw [Bool.eq_false_iff.mpr h, Bool.and_false]

end Text

namespace Category

open Text (lower contains IsNeutral)

variable {c : Category} {front text back : List Char}

/-! ## Keywords of two words -/

/-- The keywords of two words, cut at the space. -/
def pairs : List (String × String) := [("rumah", "sakit"), ("paket", "data")]

/-- A keyword is one word, or two words with a space between them. -/
theorem keyword_cases : ∀ c ∈ all, ∀ keyword ∈ keywords c, ' ' ∉ keyword.toList ∨
    ∃ pair ∈ pairs, ' ' ∉ pair.1.toList ∧ ' ' ∉ pair.2.toList ∧
      keyword.toList = pair.1.toList ++ ' ' :: pair.2.toList := by
  decide +kernel

/-- Neither end of a text can be half of a keyword of two words. -/
structure Apart (text : List Char) : Prop where
  first : ∀ pair ∈ pairs, ¬ pair.1.toList <:+ text
  second : ∀ pair ∈ pairs, ¬ pair.2.toList <+: text

theorem apart_of_keyword : ∀ c ∈ all, ∀ keyword ∈ keywords c, Apart keyword.toList := by
  have hall : ∀ c ∈ all, ∀ keyword ∈ keywords c,
      (∀ pair ∈ pairs, ¬ pair.1.toList <:+ keyword.toList) ∧
      ∀ pair ∈ pairs, ¬ pair.2.toList <+: keyword.toList := by
    decide +kernel
  intro c hc keyword hkeyword
  exact ⟨(hall c hc keyword hkeyword).1, (hall c hc keyword hkeyword).2⟩

/-- A keyword that crosses a space is one of two words. -/
theorem exists_pair {keyword : String} {before after : List Char} (hc : c ∈ all)
    (hkeyword : keyword ∈ keywords c) (h : keyword.toList = before ++ ' ' :: after) :
    ∃ pair ∈ pairs, ' ' ∉ pair.2.toList ∧ before = pair.1.toList ∧ after = pair.2.toList := by
  rcases keyword_cases c hc keyword hkeyword with hone | ⟨pair, hpair, hfirst, hsecond, htwo⟩
  · rw [h] at hone
    exact absurd (by simp) hone
  · obtain ⟨hbefore, -, hafter⟩ :=
      (List.append_cons_inj_of_notMem hfirst hsecond).mp (htwo.symm.trans h)
    exact ⟨pair, hpair, hsecond, hbefore.symm, hafter.symm⟩

/-- A keyword arises nowhere around a text that is apart from its neighbours. -/
theorem contains_between {keyword : String} (hc : c ∈ all) (hkeyword : keyword ∈ keywords c)
    (h : Apart text) (front back : List Char) :
    contains keyword.toList (front ++ ' ' :: (text ++ ' ' :: back)) = true ↔
      contains keyword.toList front = true ∨ contains keyword.toList text = true ∨
        contains keyword.toList back = true := by
  rw [Text.contains_eq_true_iff, Text.contains_eq_true_iff, Text.contains_eq_true_iff,
    Text.contains_eq_true_iff]
  constructor
  · intro hfound
    rcases Text.infix_join hfound with hfront | hrest | ⟨before, after, hcut, -, hafter⟩
    · exact .inl hfront
    · rcases Text.infix_join hrest with htext | hback | ⟨before, after, hcut, hbefore, -⟩
      · exact .inr (.inl htext)
      · exact .inr (.inr hback)
      · obtain ⟨pair, hpair, -, rfl, -⟩ := exists_pair hc hkeyword hcut
        exact absurd hbefore (h.first pair hpair)
    · obtain ⟨pair, hpair, hspace, -, rfl⟩ := exists_pair hc hkeyword hcut
      exact absurd (Text.prefix_of_prefix_join hafter hspace) (h.second pair hpair)
  · have hrest : text ++ ' ' :: back <:+: front ++ ' ' :: (text ++ ' ' :: back) :=
      ((List.suffix_cons ' ' _).trans (List.suffix_append front _)).isInfix
    rintro (hfront | htext | hback)
    · exact hfront.trans (List.prefix_append front _).isInfix
    · exact (htext.trans (List.prefix_append text _).isInfix).trans hrest
    · exact (hback.trans
        ((List.suffix_cons ' ' back).trans (List.suffix_append text _)).isInfix).trans hrest

/-! ## A text among others -/

/-- No keyword stands in the text, whatever the case of its letters. -/
def Unnamed (text : List Char) : Prop := ∀ c ∈ all, isNamedIn (lower text) c = false

instance (text : List Char) : Decidable (Unnamed text) := inferInstanceAs (Decidable (∀ c ∈ all, _))

theorem isNamedIn_between (hc : c ∈ all) (h : Apart (lower text)) (hfront : Unnamed front)
    (hback : Unnamed back) :
    isNamedIn (lower (front ++ ' ' :: (text ++ ' ' :: back))) c = isNamedIn (lower text) c := by
  have hspace : IsNeutral ' ' := Text.isNeutral_of_isBlank (by decide)
  have hlower : lower (front ++ ' ' :: (text ++ ' ' :: back)) =
      lower front ++ ' ' :: (lower text ++ ' ' :: lower back) := by
    rw [lower, Text.lowerFrom_append_neutral hspace, lower, Text.lowerFrom_append_neutral hspace]
    rfl
  have hnone {part : List Char} (hpart : Unnamed part) {keyword : String}
      (hkeyword : keyword ∈ keywords c) :
      ¬ contains keyword.toList (lower part) = true :=
    List.any_eq_false.mp (hpart c hc) keyword hkeyword
  rw [Bool.eq_iff_iff, isNamedIn, isNamedIn, List.any_eq_true, List.any_eq_true, hlower]
  refine exists_congr fun keyword => and_congr_right fun hkeyword => ?_
  rw [contains_between hc hkeyword h]
  simp [hnone hfront hkeyword, hnone hback hkeyword]

/-- Between texts without keywords a text keeps its category. -/
theorem detect_between (h : Apart (lower text)) (hfront : Unnamed front) (hback : Unnamed back) :
    detect (front ++ ' ' :: (text ++ ' ' :: back)) = detect text := by
  unfold detect
  congr 1
  exact List.find?_congr fun c hc => isNamedIn_between hc h hfront hback

/-! ## A keyword among texts without keywords -/

theorem lower_of_mem_keywords :
    ∀ c ∈ all, ∀ keyword ∈ keywords c, lower keyword.toList = keyword.toList := by
  decide +kernel

/-- Each keyword alone selects its category, but for the donation, in which the keyword for rice
stands. -/
theorem detect_of_mem_keywords (hc : c ∈ all) {keyword : String} (hkeyword : keyword ∈ keywords c) :
    detect keyword.toList = if keyword = "donasi" then .foodAndDrink else c := by
  have hall : ∀ c ∈ all, ∀ keyword ∈ keywords c,
    (all.find? fun earlier => (keywords earlier).any fun word =>
      (Text.bits word.toList &&& Text.bits keyword.toList == Text.bits word.toList) &&
        contains word.toList keyword.toList) =
        some (if keyword = "donasi" then .foodAndDrink else c) := by
    decide +kernel
  have hfind := hall c hc keyword hkeyword
  simp only [← Text.contains_eq_and_bits] at hfind
  unfold detect isNamedIn
  rw [lower_of_mem_keywords c hc keyword hkeyword, hfind, Option.getD_some]

/-- Among texts without keywords a keyword selects its category, but for the donation, which is
always taken for food. -/
theorem detect_keyword (hfront : Unnamed front) (hback : Unnamed back) {keyword : String}
    (hkeyword : keyword ∈ keywords c) : detect (front ++ ' ' :: (keyword.toList ++ ' ' :: back)) =
      if keyword = "donasi" then .foodAndDrink else c := by
  have hc : c ∈ all := by cases c <;> decide
  have hapart : Apart (lower keyword.toList) := by
    rw [lower_of_mem_keywords c hc keyword hkeyword]
    exact apart_of_keyword c hc keyword hkeyword
  rw [detect_between hapart hfront hback, detect_of_mem_keywords hc hkeyword]

/-- The words around it may be those that would make another keyword of two. -/
theorem detect_keyword_of_doctor :
    let front := "Ke RUMAH".toList
    let back := "sakit hati".toList
    Unnamed front ∧ Unnamed back ∧ "dokter" ∈ keywords .health ∧
      detect (front ++ ' ' :: ("dokter".toList ++ ' ' :: back)) = .health := by
  intro front back
  have hfront : Unnamed front := by decide +kernel
  have hback : Unnamed back := by decide +kernel
  have hmem : "dokter" ∈ keywords .health := by decide
  exact ⟨hfront, hback, hmem, detect_keyword hfront hback hmem⟩

/-- A donation is taken for food, though its keyword is one of the last category. -/
theorem detect_donation :
    let front := "bayar".toList
    let back := "masjid".toList
    "donasi" ∈ keywords .other ∧ Unnamed front ∧ Unnamed back ∧
      detect (front ++ ' ' :: ("donasi".toList ++ ' ' :: back)) = .foodAndDrink := by
  intro front back
  have hfront : Unnamed front := by decide +kernel
  have hback : Unnamed back := by decide +kernel
  exact ⟨by decide, hfront, hback, by decide +kernel⟩

end Category

end BukuKas
