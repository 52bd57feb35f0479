import BukuKas.Command
import BukuKas.Proofs.Amount.Cut
import BukuKas.Proofs.Text.Edge
import Mathlib.Data.List.Find

/-!
# Blanks at the edges of an expense

An expense is read from a text by several searches: for its amount, for its tag, for the words that
point to a category, and for what is left out of its label.  Each of them passes blanks, and a label
has no blanks at its ends; so the segments of a list may be trimmed or not before they are read.

## Main results

* `Tag.passesBlanks`, `Label.passesBlanks` : the searches of a label pass blanks.
* `readEntry_trim` : trimming keeps the entry of a text.
* `entriesOf_parts` : the segments of a list need not be trimmed.
-/

namespace BukuKas

open Calendar (Date)
open Text (isBlank isDigit isBoundary isWordChar isLooseLetter dropLoose? trim lower)

/-! ## Tags and fillers -/

namespace Tag

theorem search_of_ne {c : Char} (h : c ≠ '#') (before : Option Char) (cs : List Char) :
    search before (c :: cs) = none := by
  unfold search
  split
  · rename_i heq
    exact absurd (List.cons.inj heq).1 h
  · rfl

theorem search_sign (before : Option Char) (cs : List Char) : search before ('#' :: cs) =
    if (cs.takeWhile isDigit).isEmpty then none
    else some (cs.takeWhile isDigit, (cs.takeWhile isDigit).length) := rfl

/-- The search for tags does not look at what stands before them. -/
theorem search_eq (before : Option Char) (cs : List Char) : search before cs = search none cs := by
  cases cs with
  | nil => rfl
  | cons c cs =>
      by_cases h : c = '#'
      · subst h
        rfl
      · rw [search_of_ne h, search_of_ne h]

theorem passesBlanks : search.PassesBlanks where
  nothing before c cs h := by
    refine search_of_ne ?_ before cs
    rintro rfl
    exact absurd h (by decide)
  anew c cs _ := search_eq (some c) cs
  stops front blanks h := {
    same := fun before c cs _ => by
      have hhead : blanks.head?.any isDigit = false := (Figure.ends_blanks front h).digit
      by_cases hsign : c = '#'
      · subst hsign
        rw [search_sign, search_sign, Text.takeWhile_append_of_head? cs hhead]
      · rw [search_of_ne hsign, search_of_ne hsign]
    inside := fun before c cs find more _ hfound => by
      by_cases hsign : c = '#'
      · subst hsign
        rw [search_sign] at hfound
        split at hfound
        · exact nomatch hfound
        · injection hfound with hfound
          rw [← (Prod.mk.inj hfound).2]
          exact (List.takeWhile_prefix isDigit).length_le
      · rw [search_of_ne hsign] at hfound
        exact nomatch hfound }

theorem extract_trim (cs : List Char) : extract (trim cs) = extract cs := by
  rw [extract, passesBlanks.finds_trim, extract]

end Tag

namespace Label

theorem isWordChar_of_isBlank {c : Char} (h : isBlank c = true) : isWordChar c = false := by
  have hall : Text.blankNumbers.all (fun n => !isWordChar (Char.ofNat n)) = true := by
    decide +kernel
  have hc := Text.of_isBlank (p := fun c => !isWordChar c) hall h
  rwa [Bool.not_eq_true'] at hc

theorem fillers_spec :
    ∀ filler ∈ fillers, filler.toList ≠ [] ∧ filler.toList.all Char.isAlpha = true ∧
    filler.toList.length = filler.length := by
  decide +kernel

/-- Whether the filler stands at the head of the text as a whole word. -/
def standsAt (cs : List Char) (filler : String) : Bool :=
  match dropLoose? filler.toList cs with
  | some rest => isBoundary (cs.take filler.length).getLast? rest.head?
  | none => false

theorem fillerAt?_eq (before : Option Char) (cs : List Char) : fillerAt? before cs =
    if isBoundary before cs.head? then fillers.find? (standsAt cs) else none := rfl

theorem length_of_standsAt {cs : List Char} {filler : String} (hmem : filler ∈ fillers)
    (h : standsAt cs filler = true) : filler.length ≤ cs.length := by
  unfold standsAt at h
  split at h
  · rename_i rest hrest
    have hlength := Text.length_of_dropLoose? hrest
    have hfiller := (fillers_spec filler hmem).2.2
    omega
  · exact nomatch h

/-- Fillers stand in a text no matter which blanks follow it. -/
theorem standsAt_append_blanks {filler : String} (hmem : filler ∈ fillers) (cs : List Char)
    {blanks : List Char} (h : ∀ c ∈ blanks, isBlank c = true) :
    standsAt (cs ++ blanks) filler = standsAt cs filler := by
  obtain ⟨-, halpha, hlength⟩ := fillers_spec filler hmem
  have hletter : blanks.head?.any isLooseLetter = false :=
    Figure.head?_of_head?_dropWhile (Figure.ends_blanks cs h).letter
  have hword : blanks.head?.any isWordChar = false := by
    cases blanks with
    | nil => rfl
    | cons c blanks => exact isWordChar_of_isBlank (h c List.mem_cons_self)
  unfold standsAt
  rw [Text.dropLoose?_append_of_head? (List.all_eq_true.mp halpha) cs hletter]
  cases hdrop : dropLoose? filler.toList cs with
  | none => rfl
  | some rest =>
      have hfits : filler.length ≤ cs.length := by
        have hsplit := Text.length_of_dropLoose? hdrop
        omega
      have hhead : (rest ++ blanks).head?.any isWordChar = rest.head?.any isWordChar := by
        cases rest with
        | nil => exact hword
        | cons c rest => rfl
      dsimp only [Option.map_some]
      rw [List.take_append_of_le_length hfits, isBoundary, isBoundary, hhead]

/-- At a blank no filler stands. -/
theorem standsAt_of_isBlank {filler : String} (hmem : filler ∈ fillers) {c : Char}
    (hc : isBlank c = true) (cs : List Char) : standsAt (c :: cs) filler = false := by
  obtain ⟨hne, halpha, -⟩ := fillers_spec filler hmem
  obtain ⟨w, ws, hfiller⟩ := List.exists_cons_of_ne_nil hne
  have hunlike : Text.looksLike w c ≠ true := by
    intro hlike
    have hw : w.isAlpha = true := List.all_eq_true.mp halpha w (hfiller ▸ List.mem_cons_self)
    have hletter := Text.isLooseLetter_of_looksLike hw hlike
    exact nomatch hletter.symm.trans (Figure.isLooseLetter_of_isBlank hc)
  unfold standsAt
  rw [hfiller, dropLoose?, if_neg hunlike]

theorem passesBlanks : fillerSearch.PassesBlanks where
  nothing before c cs h := by
    have hnone : fillers.find? (standsAt (c :: cs)) = none := by
      rw [List.find?_eq_none]
      intro filler hmem
      exact Bool.eq_false_iff.mp (standsAt_of_isBlank hmem h cs)
    rw [fillerSearch, fillerAt?_eq, hnone, ite_self, Option.map_none]
  anew c cs h := by
    have hboundary (after : Option Char) : isBoundary (some c) after = isBoundary none after := by
      rw [isBoundary, isBoundary, Option.any_some, isWordChar_of_isBlank h, Option.any_none]
    rw [fillerSearch, fillerSearch, fillerAt?_eq, fillerAt?_eq, hboundary]
  stops front blanks h := {
    same := fun before c cs _ => by
      have hsame : fillers.find? (standsAt (c :: cs ++ blanks)) =
          fillers.find? (standsAt (c :: cs)) :=
        List.find?_congr fun filler hmem => standsAt_append_blanks hmem (c :: cs) h
      rw [fillerSearch, fillerSearch, fillerAt?_eq, fillerAt?_eq, ← List.cons_append, hsame]
      rfl
    inside := fun before c cs find more _ hfound => by
      rw [fillerSearch, fillerAt?_eq] at hfound
      obtain ⟨filler, hfiller, hpair⟩ := Option.map_eq_some_iff.mp hfound
      split at hfiller
      · have hlength :=
          length_of_standsAt (List.mem_of_find?_eq_some hfiller) (List.find?_some hfiller)
        have hmore : filler.length - 1 = more := (Prod.mk.inj hpair).2
        rw [List.length_cons] at hlength
        omega
      · exact nomatch hfiller }

/-! ## Labels -/

variable {blanks : List Char}

theorem isBlank_of_mem_filter (h : ∀ c ∈ blanks, isBlank c = true) (p : Char → Bool) :
    ∀ c ∈ blanks.filter p, isBlank c = true := fun c hc => h c (List.mem_filter.mp hc).1

/-- What a text without tags says about an item. -/
def ofUntagged (untagged : List Char) : List Char :=
  Text.stripEnds isEdge <| closeMarks <| [' '].intercalate <| Text.words <|
    (Text.withoutFinds fillerSearch (Text.withoutFinds Figure.search untagged)).filter (· != '#')

theorem core_eq (cs : List Char) : core cs = ofUntagged (Text.withoutFinds Tag.search cs) := rfl

theorem ofUntagged_blanks_append (h : ∀ c ∈ blanks, isBlank c = true) (cs : List Char) :
    ofUntagged (blanks ++ cs) = ofUntagged cs := by
  unfold ofUntagged
  rw [Figure.passesBlanks.withoutFinds_blanks_append h, passesBlanks.withoutFinds_blanks_append h,
    List.filter_append, Text.words_blanks_append (isBlank_of_mem_filter h _)]

theorem ofUntagged_append_blanks (cs : List Char) (h : ∀ c ∈ blanks, isBlank c = true) :
    ofUntagged (cs ++ blanks) = ofUntagged cs := by
  unfold ofUntagged
  rw [Figure.passesBlanks.withoutFinds_append_blanks cs h,
    passesBlanks.withoutFinds_append_blanks _ h, List.filter_append,
    Text.words_append_blanks _ (isBlank_of_mem_filter h _)]

theorem core_blanks_append (h : ∀ c ∈ blanks, isBlank c = true) (cs : List Char) :
    core (blanks ++ cs) = core cs := by
  rw [core_eq, Tag.passesBlanks.withoutFinds_blanks_append h, ofUntagged_blanks_append h, core_eq]

theorem core_append_blanks (cs : List Char) (h : ∀ c ∈ blanks, isBlank c = true) :
    core (cs ++ blanks) = core cs := by
  rw [core_eq, Tag.passesBlanks.withoutFinds_append_blanks cs h, ofUntagged_append_blanks _ h,
    core_eq]

theorem core_trim (cs : List Char) : core (trim cs) = core cs := by
  obtain ⟨front, back, hcs, hfront, hback⟩ := Text.exists_blanks cs
  calc core (trim cs) = core (trim cs ++ back) := (core_append_blanks _ hback).symm
    _ = core (front ++ (trim cs ++ back)) := (core_blanks_append hfront _).symm
    _ = core cs := by rw [← hcs]

theorem derive_trim (cs : List Char) : derive (trim cs) = derive cs := by
  rw [derive, core_trim, derive]

end Label

/-! ## Categories -/

namespace Category

open Text (IsNeutral)

variable {front back : List Char}

theorem keywords_spec : ∀ c ∈ all,
    (∀ keyword ∈ keywords c, keyword.toList.head?.any Char.isLower = true) ∧
      ∀ keyword ∈ keywords c, keyword.toList.getLast?.any Char.isLower = true := by
  decide +kernel

/-- Characters without case before a text do not point to a category. -/
theorem detect_neutral_append (h : ∀ c ∈ front, IsNeutral c) (cs : List Char) :
    detect (front ++ cs) = detect cs := by
  unfold detect
  rw [Text.lower_neutral_append h]
  congr 1
  exact List.find?_congr fun c hc => Text.any_contains_neutral_append (keywords_spec c hc).1 h _

/-- Characters without case behind a text do not point to a category. -/
theorem detect_append_neutral (cs : List Char) (h : ∀ c ∈ back, IsNeutral c) :
    detect (cs ++ back) = detect cs := by
  unfold detect
  rw [Text.lower_append_neutral cs h]
  congr 1
  exact List.find?_congr fun c hc => Text.any_contains_append_neutral (keywords_spec c hc).2 _ h

theorem detect_trim (cs : List Char) : detect (trim cs) = detect cs := by
  obtain ⟨front, back, hcs, hfront, hback⟩ := Text.exists_blanks cs
  have hneutral {blanks : List Char} (h : ∀ c ∈ blanks, isBlank c = true) : ∀ c ∈ blanks,
      IsNeutral c :=
    fun c hc => Text.isNeutral_of_isBlank (h c hc)
  calc detect (trim cs) = detect (trim cs ++ back) :=
        (detect_append_neutral _ (hneutral hback)).symm
    _ = detect (front ++ (trim cs ++ back)) := (detect_neutral_append (hneutral hfront) _).symm
    _ = detect cs := by rw [← hcs]

end Category

/-! ## Entries -/

namespace Command

/-- Trimming keeps the entry of a text. -/
theorem readEntry_trim (cs : List Char) (today : Date) :
    readEntry (trim cs) today = readEntry cs today := by
  unfold readEntry Category.classify
  rw [Amount.extract_trim, Tag.extract_trim, Label.derive_trim, Category.detect_trim]

/-- Blanks and empty segments do not matter for the entries of a list. -/
theorem entriesOf_parts (parts : List (List Char)) (today : Date) :
    entriesOf today ((parts.map trim).filter (!·.isEmpty)) = entriesOf today parts := by
  induction parts with
  | nil => rfl
  | cons part parts ih =>
      rw [List.map_cons, entriesOf, ← readEntry_trim]
      cases htrim : trim part with
      | nil =>
          rw [List.filter_cons_of_neg (by simp), ih]
          cases entriesOf today parts <;> rfl
      | cons c cs => rw [List.filter_cons_of_pos (by simp), entriesOf, ih]

end Command

end BukuKas
