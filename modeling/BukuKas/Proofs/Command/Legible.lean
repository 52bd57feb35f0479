import BukuKas.Command
import BukuKas.Proofs.Text.Part

/-!
# Texts that can be read

Reading a text fails for one of two reasons only.  A numeral may have too many digits, or a unit may
be recognised by its letters although its lower case is no unit.  Both need something that can be
seen in the text beforehand: a long run of digits, or one of the two Turkish forms of `i`.  A text
without either is `Legible`; so are its parts, and each reader succeeds on such a part.

## Main results

* `lower_take_of_dropLoose?` : the letters of a unit are its spelling, up to their case.
* `classify_of_legible` : a legible text can be read.
-/

namespace BukuKas

open Calendar (Date)
open Text (isDigit lower lowerFrom lowerChar looksLike dropLoose?)

namespace Reading

variable {α β : Type}

/-- Rules that can be tried can be tried in order. -/
theorem orElse_ok {first : Reading α} {next : Unit → Reading α}
    (hfirst : ∃ found, first = .ok found)
    (hnext : ∃ found, next () = .ok found) : ∃ found, orElse first next = .ok found := by
  obtain ⟨found, rfl⟩ := hfirst
  cases found with
  | none => exact hnext
  | some a => exact ⟨some a, rfl⟩

theorem map_ok {f : α → β} {t : Reading α} (h : ∃ found, t = .ok found) :
    ∃ found, map f t = .ok found := by
  obtain ⟨found, rfl⟩ := h
  cases found with
  | none => exact ⟨none, rfl⟩
  | some a => exact ⟨some (f a), rfl⟩

end Reading

/-- No run of digits in the text is too long for a numeral, and none of its letters is a Turkish
`i`, which is read as a letter of a unit and yet has another lower case. -/
structure Legible (text : List Char) : Prop where
  numerals : ∀ ds, ds <:+: text → (∀ d ∈ ds, isDigit d = true) → ds.length ≤ Number.maxDigits
  dotted : '\u0130' ∉ text
  dotless : '\u0131' ∉ text

namespace Legible

theorem of_infix {part text : List Char} (h : Legible text) (hpart : part <:+: text) :
    Legible part where
  numerals ds hds hdigits := h.numerals ds (hds.trans hpart) hdigits
  dotted hmem := h.dotted (hpart.subset hmem)
  dotless hmem := h.dotless (hpart.subset hmem)

theorem readNat {text ds : List Char} (h : Legible text) (hds : ds <:+: text)
    (hdigits : ∀ d ∈ ds, isDigit d = true) : ∃ n, Number.readNat ds = .ok n := by
  have hlength := h.numerals ds hds hdigits
  exact ⟨Number.natOfDigits ds, if_neg (by omega)⟩

end Legible

/-! ## Units -/

namespace Text

/-- A character that is read as a letter, other than a Turkish `i` and a long `s`, has that letter
as its lower case. -/
theorem lowerChar_of_looksLike {letter c : Char} (hascii : letter.toNat < 0x80) (hs : letter ≠ 's')
    (hdotted : c ≠ '\u0130') (hdotless : c ≠ '\u0131') (h : looksLike letter c = true) :
    c ≠ '\u03A3' ∧ lowerChar c = [letter] := by
  simp only [looksLike, hs, hdotted, hdotless, Bool.or_eq_true, Bool.and_eq_true, beq_iff_eq,
    false_and, or_false, and_false] at h
  rcases h with hlower | ⟨hk, hkelvin⟩
  · have hc : c.toNat < 0x80 := by
      unfold Char.toLower at hlower
      split at hlower
      · rename_i hupper
        have hlast : c.toNat ≤ 90 := UInt32.le_iff_toNat_le.mp hupper.2
        omega
      · rw [hlower]
        exact hascii
    refine ⟨?_, by rw [lowerChar, if_pos hc, hlower]⟩
    rintro rfl
    exact absurd hc (by decide)
  · rw [hk, hkelvin]
    exact ⟨by decide, by decide +kernel⟩

/-- The characters in which a word was recognised are the word itself, up to their case. -/
theorem lowerFrom_take_of_dropLoose? {word cs rest : List Char}
    (hword : ∀ w ∈ word, w.toNat < 0x80 ∧ w ≠ 's') (hdotted : '\u0130' ∉ cs)
    (hdotless : '\u0131' ∉ cs) (h : dropLoose? word cs = some rest) (before : List Char) :
    lowerFrom before (cs.take word.length) = word := by
  induction word generalizing cs before with
  | nil => rfl
  | cons w ws ih =>
      cases cs with
      | nil =>
          rw [dropLoose?] at h
          cases h
      | cons c cs =>
          rw [dropLoose?] at h
          split at h
          · rename_i hlike
            obtain ⟨hw, hws⟩ := List.forall_mem_cons.mp hword
            rw [List.mem_cons, not_or] at hdotted hdotless
            obtain ⟨hsigma, hlower⟩ := lowerChar_of_looksLike hw.1 hw.2 (Ne.symm hdotted.1)
              (Ne.symm hdotless.1) hlike
            have hrest := ih hws hdotted.2 hdotless.2 h (c :: before)
            simp [lowerFrom, hsigma, hlower, hrest]
          · cases h

end Text

namespace Figure

/-- The letters that stand behind a figure in a legible text are a unit, if they are any. -/
theorem suffixAt_cases {cs : List Char} (h : Legible cs) :
    suffixAt cs = [] ∨ ∃ u : MoneyUnit, lower (suffixAt cs) = u.spelling := by
  unfold suffixAt
  dsimp only
  split
  · rename_i u hfind
    have hfound := List.find?_some hfind
    split at hfound
    · rename_i rest hdrop
      have hspelling : ∀ w ∈ u.spelling, w.toNat < 0x80 ∧ w ≠ 's' := by
        have hall : u.spelling.all (fun w => decide (w.toNat < 0x80) && w != 's') = true := by
          cases u <;> decide
        simpa using hall
      exact .inr ⟨u, Text.lowerFrom_take_of_dropLoose? hspelling h.dotted h.dotless hdrop []⟩
    · exact nomatch hfound
  · exact .inl rfl

theorem suffix_scan {cs : List Char} (h : Legible cs) :
    (scan cs).1.suffix = [] ∨ ∃ u : MoneyUnit, lower (scan cs).1.suffix = u.spelling := by
  apply suffixAt_cases
  apply h.of_infix
  exact ((List.drop_suffix _ _).trans ((List.drop_suffix _ _).trans (List.drop_suffix _ _))).isInfix

theorem amount?_of_legible {cs : List Char} (h : Legible cs) {f : Figure} (hf : f ∈ allIn cs) :
    ∃ found, f.amount? = .ok found := by
  obtain ⟨before, rest, more, hrest, hsearch⟩ := Text.mem_finds hf
  have hunit : f.suffix = [] ∨ ∃ u : MoneyUnit, lower f.suffix = u.spelling := by
    cases rest with
    | nil => exact nomatch hsearch
    | cons c rest =>
        rw [search] at hsearch
        split at hsearch
        · injection hsearch with hsearch
          obtain ⟨hfigure, -⟩ := Prod.mk.inj hsearch
          rw [← hfigure]
          exact suffix_scan (h.of_infix hrest.isInfix)
        · exact nomatch hsearch
  unfold amount?
  rcases hunit with hnone | ⟨u, hu⟩
  · rw [hnone]
    exact ⟨_, rfl⟩
  · rw [hu, MoneyUnit.ofSpelling?_spelling]
    split
    · exact ⟨_, rfl⟩
    · split <;> exact ⟨_, rfl⟩

end Figure

/-! ## Amounts, tags and expenses -/

theorem Amount.first?_ok {fs : List Figure} (h : ∀ f ∈ fs, ∃ found, f.amount? = .ok found) :
    ∃ found, first? fs = .ok found := by
  induction fs with
  | nil => exact ⟨none, rfl⟩
  | cons f fs ih =>
      obtain ⟨hfirst, hothers⟩ := List.forall_mem_cons.mp h
      obtain ⟨found, hfound⟩ := hfirst
      cases found with
      | some amount => exact ⟨some amount, by rw [first?, hfound]⟩
      | none =>
          rw [first?, hfound]
          exact ih hothers

theorem Amount.extract_of_legible {cs : List Char} (h : Legible cs) :
    ∃ found, extract cs = .ok found :=
  first?_ok fun _ hf => Figure.amount?_of_legible h hf

theorem Tag.extract_of_legible {cs : List Char} (h : Legible cs) :
    ∃ found, extract cs = .ok found := by
  unfold extract
  split
  · exact ⟨none, rfl⟩
  · rename_i digits hhead
    obtain ⟨before, rest, more, hrest, hsearch⟩ := Text.mem_finds (List.mem_of_head? hhead)
    have hdigits : digits <:+: rest ∧ ∀ d ∈ digits, isDigit d = true := by
      unfold search at hsearch
      split at hsearch
      · rename_i cs
        dsimp only at hsearch
        split at hsearch
        · exact nomatch hsearch
        · injection hsearch with hsearch
          obtain ⟨hdigits, -⟩ := Prod.mk.inj hsearch
          rw [← hdigits]
          refine ⟨?_, List.all_eq_true.mp List.all_takeWhile⟩
          exact (List.takeWhile_prefix isDigit).isInfix.trans (List.suffix_cons _ _).isInfix
      · exact nomatch hsearch
    obtain ⟨n, hn⟩ := h.readNat (hdigits.1.trans hrest.isInfix) hdigits.2
    rw [hn]
    exact ⟨some n, rfl⟩

namespace Command

theorem readEntry_of_legible {text : List Char} (h : Legible text) (today : Date) :
    ∃ found, readEntry text today = .ok found := by
  obtain ⟨amount, hamount⟩ := Amount.extract_of_legible h
  obtain ⟨tag, htag⟩ := Tag.extract_of_legible h
  unfold readEntry
  rw [hamount, htag]
  cases amount <;> exact ⟨_, rfl⟩

theorem entriesOf_of_legible {texts : List (List Char)} (h : ∀ text ∈ texts, Legible text)
    (today : Date) : ∃ es, entriesOf today texts = .ok es := by
  induction texts with
  | nil => exact ⟨[], rfl⟩
  | cons text texts ih =>
      obtain ⟨htext, htexts⟩ := List.forall_mem_cons.mp h
      obtain ⟨first, hfirst⟩ := readEntry_of_legible htext today
      obtain ⟨others, hothers⟩ := ih htexts
      exact ⟨first.toList ++ others, by rw [entriesOf, hfirst, hothers]⟩

/-- The first segment begins the text, and each one stands in it. -/
theorem infix_of_segmentsAfter {before : Option Char} {text part : List Char}
    {parts : List (List Char)} (h : segmentsAfter before text = part :: parts) :
    part <+: text ∧ ∀ other ∈ parts, other <:+: text := by
  induction text generalizing before part parts with
  | nil =>
      obtain ⟨rfl, rfl⟩ := List.cons.inj h
      exact ⟨List.prefix_refl _, nofun⟩
  | cons c cs ih =>
      rw [segmentsAfter] at h
      split at h
      · rename_i hnil
        exact absurd hnil (segmentsAfter_ne_nil (some c) cs)
      · rename_i first others hparts
        obtain ⟨hfirst, hothers⟩ := ih hparts
        have hlater : ∀ other ∈ others, other <:+: c :: cs := fun other hmem =>
          (hothers other hmem).trans (List.suffix_cons c cs).isInfix
        split at h
        · obtain ⟨rfl, rfl⟩ := List.cons.inj h
          refine ⟨List.nil_prefix, fun other hmem => ?_⟩
          rcases List.mem_cons.mp hmem with rfl | hmem
          · exact hfirst.isInfix.trans (List.suffix_cons c cs).isInfix
          · exact hlater other hmem
        · obtain ⟨rfl, rfl⟩ := List.cons.inj h
          exact ⟨List.cons_prefix_cons.mpr ⟨rfl, hfirst⟩, hlater⟩

theorem infix_of_mem_segments {text part : List Char} (h : part ∈ segments text) :
    part <:+: text := by
  cases hparts : segments text with
  | nil => exact absurd hparts (segments_ne_nil text)
  | cons first others =>
      obtain ⟨hfirst, hothers⟩ := infix_of_segmentsAfter hparts
      rw [hparts] at h
      rcases List.mem_cons.mp h with rfl | hmem
      · exact hfirst.isInfix
      · exact hothers part hmem

theorem many?_of_legible {raw : List Char} (h : Legible raw) (today : Date) :
    ∃ found, many? raw today = .ok found := by
  unfold many?
  split
  · have hparts : ∀ part ∈ ((segments raw).map Text.trim).filter (!·.isEmpty), Legible part := by
      intro part hpart
      obtain ⟨segment, hsegment, rfl⟩ := List.mem_map.mp (List.mem_filter.mp hpart).1
      exact h.of_infix ((Text.trim_infix segment).trans (infix_of_mem_segments hsegment))
    obtain ⟨es, hes⟩ := entriesOf_of_legible hparts today
    rw [hes]
    exact ⟨_, rfl⟩
  · exact ⟨none, rfl⟩

/-! ## Commands with a number -/

theorem suffix_of_argument? {word : String} {text argument : List Char}
    (h : argument? word text = some argument) : argument <:+ text := by
  unfold argument? at h
  split at h
  · split at h
    · rename_i c cs hdrop
      split at h
      · injection h with h
        rw [← h]
        have hcs : c :: cs <:+ text := hdrop ▸ List.drop_suffix _ text
        exact (List.dropWhile_suffix Text.isBlank).trans ((List.suffix_cons c cs).trans hcs)
      · exact nomatch h
    · exact nomatch h
  · exact nomatch h

/-- The number of a command is read from the lower case of the text, and its digits are digits of
the text. -/
theorem index?_of_legible {raw : List Char} (h : Legible raw) (word : String) :
    ∃ found, index? word (lower raw) = .ok found := by
  unfold index?
  split
  · rename_i d ds hargument
    split
    · rename_i hdigits
      have hall : ∀ c ∈ d :: ds, isDigit c = true := List.all_eq_true.mp hdigits
      have hsuffix : d :: ds <:+ raw :=
        Text.suffix_of_suffix_lowerFrom hall (suffix_of_argument? hargument)
      obtain ⟨n, hn⟩ := h.readNat hsuffix.isInfix hall
      rw [hn]
      exact ⟨some n, rfl⟩
    · exact ⟨none, rfl⟩
  · exact ⟨none, rfl⟩

theorem management?_of_legible {raw : List Char} (h : Legible raw) :
    ∃ found, management? raw (lower raw) = .ok found := by
  unfold management?
  split
  · exact ⟨none, rfl⟩
  · split
    · exact ⟨_, rfl⟩
    · have hindex {build : Nat → Intent} (word : String) :
          ∃ found, Reading.map build (index? word (lower raw)) = .ok found :=
        Reading.map_ok (index?_of_legible h word)
      apply Reading.orElse_ok (hindex "!hapus")
      apply Reading.orElse_ok (hindex "!delete")
      apply Reading.orElse_ok (hindex "!hapusingat")
      exact ⟨_, rfl⟩

/-- A legible text can be read. -/
theorem classify_of_legible {text : List Char} (h : Legible text) (today : Date) :
    ∃ intent, classify text today = .ok intent := by
  have hraw : Legible (Text.trim text) := h.of_infix (Text.trim_infix text)
  have hrules : ∃ found, rules (Text.trim text) today = .ok found := by
    unfold rules
    apply Reading.orElse_ok ⟨_, rfl⟩
    apply Reading.orElse_ok (management?_of_legible hraw)
    apply Reading.orElse_ok (many?_of_legible hraw today)
    exact Reading.map_ok (readEntry_of_legible hraw today)
  obtain ⟨found, hfound⟩ := hrules
  unfold classify
  dsimp only
  rw [hfound]
  cases found <;> exact ⟨_, rfl⟩

end Command

end BukuKas
