import BukuKas.Proofs.Amount.Spelled
import BukuKas.Proofs.Command.Edge
import BukuKas.Proofs.Command.Entry
import BukuKas.Proofs.Text.Upper
import Mathlib.Data.List.Chain

/-!
# Labels are in normal form

What is left of a text as the label of an item went through seven passes, and each can bring
characters together that an earlier one was meant to remove.  Two facts carry the proof.  Without
its tags a text has no digit right behind a number sign, so that every run of digits is a figure and
no digit outlives the search for figures.  And from the words on, blanks are single spaces; the
spaces before marks are closed and the ends are stripped after that, and neither brings two blanks
together or a mark behind a blank.

## Main results

* `Tag.isChain_withoutFinds` : no digit right behind a number sign when the tags are gone.
* `Figure.isDigit_of_mem_withoutFinds` : no digit is left when the figures are gone as well.
* `Label.neat_derive` : every label is in normal form.
-/

namespace BukuKas

open Text (isDigit isBlank isLooseLetter isUnsigned dropLoose? leftFrom)

/-! ## Texts without tags -/

namespace Tag

/-- The second character is no digit right behind a number sign. -/
def Apart (c d : Char) : Prop := c = '#' → isDigit d = false

/-- Tags do not uncover digits: a tag ends where no digit follows. -/
theorem head?_leftFrom (before : Option Char) {skip : Nat} {cs : List Char}
    (h : (cs.drop skip).head?.any isDigit = false) :
    (leftFrom search before skip cs).head?.any isDigit = false := by
  induction cs generalizing before skip with
  | nil => rfl
  | cons c cs ih =>
      cases skip with
      | succ skip => exact ih (some c) h
      | zero =>
          by_cases hsign : c = '#'
          · subst hsign
            by_cases hdigits : (cs.takeWhile isDigit).isEmpty = true
            · have hsearch : search before ('#' :: cs) = none := by rw [search_sign, if_pos hdigits]
              rw [Text.leftFrom_of_none hsearch]
              rfl
            · have hsearch : search before ('#' :: cs) =
                  some (cs.takeWhile isDigit, (cs.takeWhile isDigit).length) := by
                rw [search_sign, if_neg hdigits]
              rw [Text.leftFrom_of_some hsearch]
              apply ih
              rw [Text.drop_takeWhile]
              exact Text.any_head?_dropWhile isDigit cs
          · rw [Text.leftFrom_of_none (search_of_ne hsign before cs)]
            exact h

theorem isChain_leftFrom (before : Option Char) (skip : Nat) (cs : List Char) :
    (leftFrom search before skip cs).IsChain Apart := by
  induction cs generalizing before skip with
  | nil => exact .nil
  | cons c cs ih =>
      cases skip with
      | succ skip => exact ih (some c) skip
      | zero =>
          cases hsearch : search before (c :: cs) with
          | some found =>
              rw [Text.leftFrom_of_some hsearch]
              exact ih (some c) found.2
          | none =>
              rw [Text.leftFrom_of_none hsearch, List.isChain_cons]
              constructor
              · rintro d hd rfl
                -- a number sign that is left has no digit behind it, and what follows uncovers none
                have hnext : cs.head?.any isDigit = false := by
                  rw [search_sign] at hsearch
                  cases cs with
                  | nil => rfl
                  | cons d ds =>
                      by_cases hdigit : isDigit d = true
                      · simp [hdigit] at hsearch
                      · simpa using hdigit
                have hleft : (leftFrom search (some '#') 0 cs).head?.any isDigit = false :=
                  head?_leftFrom (some '#') hnext
                rwa [Option.mem_def.mp hd] at hleft
              · exact ih (some c) 0

/-- Without its tags a text has no digit right behind a number sign. -/
theorem isChain_withoutFinds (cs : List Char) : (Text.withoutFinds search cs).IsChain Apart :=
  isChain_leftFrom none 0 cs

end Tag

/-! ## Texts without figures -/

namespace Figure

/-- Whether no figure begins right behind the character. -/
def isBarring (c : Char) : Bool := c == '#' || isDigit c

theorem isBarring_of_isLooseLetter {c : Char} (h : isLooseLetter c = true) :
    isBarring c = false := by
  have hsign : c ≠ '#' := by
    rintro rfl
    exact absurd h (by decide)
  by_cases hdigit : isDigit c = true
  · simp [Text.isLooseLetter_of_isDigit hdigit] at h
  · simp [isBarring, hsign, hdigit]

theorem suffixAt_begins (cs : List Char) : suffixAt cs <+: cs := by
  rw [suffixAt_eq]
  split
  · exact List.take_prefix _ _
  · exact List.nil_prefix

/-- What is read as a word consists of letters. -/
theorem isLooseLetter_of_mem_take {word cs rest : List Char} (hword : ∀ w ∈ word, w.isAlpha = true)
    (h : dropLoose? word cs = some rest) : ∀ c ∈ cs.take word.length, isLooseLetter c = true := by
  induction word generalizing cs with
  | nil => simp
  | cons w ws ih =>
      cases cs with
      | nil => simp
      | cons c cs =>
          rw [dropLoose?] at h
          by_cases hlike : Text.looksLike w c = true
          · rw [if_pos hlike] at h
            simp only [List.mem_cons, forall_eq_or_imp] at hword
            simp only [List.length_cons, List.take_succ_cons, List.mem_cons, forall_eq_or_imp]
            exact ⟨Text.isLooseLetter_of_looksLike hword.1 hlike, ih hword.2 h⟩
          · simp [hlike] at h

/-- A unit consists of letters. -/
theorem isLooseLetter_of_mem_suffixAt {cs : List Char} :
    ∀ c ∈ suffixAt cs, isLooseLetter c = true := by
  rw [suffixAt_eq]
  cases hfind : MoneyUnit.all.find? (standsAt cs) with
  | none => simp
  | some u =>
      have hstands := List.find?_some hfind
      unfold standsAt at hstands
      split at hstands
      · rename_i rest hdrop
        exact isLooseLetter_of_mem_take
          (fun w hw => Text.isAlpha_of_isLower (MoneyUnit.isLower_of_mem_spelling w hw)) hdrop
      · exact nomatch hstands

/-- Behind a fraction stands no digit. -/
theorem any_head?_drop_fractionLength {cs : List Char} (h : cs.head?.any isDigit = false) :
    (cs.drop (fractionLength cs)).head?.any isDigit = false := by
  cases cs with
  | nil => rfl
  | cons point cs =>
      by_cases hempty : fractionAt (point :: cs) = []
      · simpa [fractionLength, hempty] using h
      · have hfraction : fractionAt (point :: cs) = cs.takeWhile isDigit := by
          rw [fractionAt] at hempty ⊢
          split
          · rfl
          · simp_all
        have hlength : fractionLength (point :: cs) = (cs.takeWhile isDigit).length + 1 := by
          rw [fractionLength, if_neg (by simpa using hempty), hfraction, Nat.add_comm]
        rw [hlength, List.drop_succ_cons, Text.drop_takeWhile]
        exact Text.any_head?_dropWhile isDigit cs

/-- What a unit with the blanks before it ends with, if there is a unit. -/
theorem getLast?_take_unitLength {cs : List Char} (h : unitAt cs ≠ []) :
    (cs.take (unitLength cs)).getLast? = (unitAt cs).getLast? := by
  have hlength : unitLength cs = (cs.takeWhile isBlank).length + (unitAt cs).length := by
    rw [unitLength, if_neg (by simpa using h)]
  have hunit : (cs.dropWhile isBlank).take (unitAt cs).length = unitAt cs :=
    (List.prefix_iff_eq_take.mp (suffixAt_begins _)).symm
  rw [hlength, List.take_add, Text.drop_takeWhile, hunit, List.getLast?_append_of_ne_nil _ h]

/-- Behind a figure stands no digit, unless the figure ends with the letter of a unit. -/
theorem getLast?_take_scan {cs : List Char} (h : (cs.drop (scan cs).2).head?.any isDigit = true) :
    (cs.take (scan cs).2).getLast?.any isBarring = false := by
  rw [scan_eq] at h ⊢
  generalize hrest : cs.dropWhile isDigit = rest at h ⊢
  generalize htail : rest.drop (fractionLength rest) = tail at h ⊢
  have hdigits : rest.head?.any isDigit = false := hrest ▸ Text.any_head?_dropWhile isDigit cs
  have hfraction : tail.head?.any isDigit = false := htail ▸ any_head?_drop_fractionLength hdigits
  have hdrop : cs.drop ((cs.takeWhile isDigit).length + fractionLength rest) = tail := by
    rw [← List.drop_drop, Text.drop_takeWhile, hrest, htail]
  dsimp only at h ⊢
  rw [← List.drop_drop, hdrop] at h
  by_cases hunit : unitAt tail = []
  · have hnone : unitLength tail = 0 := by simp [unitLength, hunit]
    rw [hnone, List.drop_zero, hfraction] at h
    exact nomatch h
  · have hne : tail.take (unitLength tail) ≠ [] := by
      intro hnil
      have hlast := getLast?_take_unitLength hunit
      rw [hnil, List.getLast?_eq_some_getLast hunit] at hlast
      exact nomatch hlast
    rw [List.take_add, hdrop, List.getLast?_append_of_ne_nil _ hne, getLast?_take_unitLength hunit,
      List.getLast?_eq_some_getLast hunit]
    exact isBarring_of_isLooseLetter (isLooseLetter_of_mem_suffixAt _ (List.getLast_mem hunit))

/-- In a text without tags every digit belongs to a figure.  The induction knows of the place from
which on the text is left that no digit stands there behind a character that would keep a figure
from beginning. -/
theorem isDigit_of_mem_leftFrom {before : Option Char} {skip : Nat} {cs : List Char}
    (hapart : cs.IsChain Tag.Apart)
    (hplace : (cs.drop skip).head?.any isDigit = true →
      ((cs.take skip).getLast?.or before).any isBarring = false) :
    ∀ d ∈ leftFrom search before skip cs, isDigit d = false := by
  induction cs generalizing before skip with
  | nil => exact fun d hd => absurd hd List.not_mem_nil
  | cons c cs ih =>
      have hlast (n : Nat) : (c :: cs.take n).getLast?.or before =
          (cs.take n).getLast?.or (some c) := by
        rw [List.getLast?_cons]
        cases (cs.take n).getLast? <;> rfl
      rw [List.isChain_cons] at hapart
      cases skip with
      | succ skip =>
          rw [List.take_succ_cons, hlast] at hplace
          exact ih hapart.2 hplace
      | zero =>
          by_cases hdigit : isDigit c = true
          · have hbefore : before.any isBarring = false := hplace hdigit
            have hsearch : search before (c :: cs) =
                some ((scan (c :: cs)).1, (scan (c :: cs)).2 - 1) := by
              have hbegins : before.any (fun b => b == '#' || isDigit b) = false := hbefore
              rw [search, hdigit, hbegins]
              rfl
            have hscan : (scan (c :: cs)).2 = (scan (c :: cs)).2 - 1 + 1 := by
              have hpos : 0 < ((c :: cs).takeWhile isDigit).length := by simp [hdigit]
              rw [scan_eq]
              dsimp only
              omega
            have hends := @getLast?_take_scan (c :: cs)
            rw [hscan, List.drop_succ_cons, List.take_succ_cons] at hends
            rw [Text.leftFrom_of_some hsearch]
            apply ih hapart.2
            intro hnext
            have hend := hends hnext
            rw [← hlast]
            cases hgetLast : (c :: cs.take ((scan (c :: cs)).2 - 1)).getLast? with
            | none => simp at hgetLast
            | some last => rwa [hgetLast] at hend
          · have hsearch : search before (c :: cs) = none := by simp [search, hdigit]
            rw [Text.leftFrom_of_none hsearch]
            intro d hd
            rcases List.mem_cons.mp hd with rfl | hmem
            · simpa using hdigit
            · refine ih hapart.2 (fun hnext => ?_) d hmem
              have hsign : c ≠ '#' := by
                rintro rfl
                cases cs with
                | nil => simp at hnext
                | cons e es =>
                    have hapartHead : isDigit e = false := hapart.1 e rfl rfl
                    exact absurd (hapartHead.symm.trans hnext) Bool.false_ne_true
              simp [isBarring, hsign, hdigit]

/-- Without tags and figures a text has no digits. -/
theorem isDigit_of_mem_withoutFinds {cs : List Char} (h : cs.IsChain Tag.Apart) :
    ∀ d ∈ Text.withoutFinds search cs, isDigit d = false :=
  isDigit_of_mem_leftFrom h fun _ => rfl

end Figure

/-! ## Blanks and marks -/

namespace Label

/-- The second character is no blank right behind a blank. -/
def Spaced (c d : Char) : Prop := isBlank c = true → isBlank d = false

/-- The second character is no blank and no mark right behind a blank. -/
def Closed (c d : Char) : Prop := isBlank c = true → isBlank d = false ∧ isMark d = false

theorem isChain_of_no_blank {R : Char → Char → Prop} (hR : ∀ c d, isBlank c = false → R c d)
    {cs : List Char} (h : ∀ c ∈ cs, isBlank c = false) : cs.IsChain R := by
  induction cs with
  | nil => exact .nil
  | cons c cs ih =>
      rw [List.isChain_cons]
      constructor
      · exact fun d _ => hR c d (h c List.mem_cons_self)
      · exact ih fun d hd => h d (List.mem_cons_of_mem c hd)

theorem spaced_of_no_blank (c d : Char) (h : isBlank c = false) : Spaced c d :=
  fun hblank => by simp [h] at hblank

theorem closed_of_no_blank (c d : Char) (h : isBlank c = false) : Closed c d :=
  fun hblank => by simp [h] at hblank

theorem mem_of_mem_intercalate {ws : List (List Char)} {c : Char} (h : c ∈ [' '].intercalate ws) :
    c = ' ' ∨ ∃ u ∈ ws, c ∈ u := by
  induction ws with
  | nil => simp at h
  | cons u ws ih =>
      cases ws with
      | nil =>
          right
          exact ⟨u, by simp, by simpa using h⟩
      | cons v ws =>
          rw [List.intercalate_cons_cons] at h
          simp only [List.append_assoc, List.mem_append, List.mem_singleton] at h
          rcases h with hmem | rfl | hmem
          · exact .inr ⟨u, by simp, hmem⟩
          · exact .inl rfl
          · rcases ih hmem with hspace | ⟨w, hw, hc⟩
            · exact .inl hspace
            · exact .inr ⟨w, List.mem_cons_of_mem u hw, hc⟩

/-- Words that are joined by spaces have no two blanks in a row. -/
theorem isChain_intercalate {ws : List (List Char)}
    (h : ∀ u ∈ ws, u ≠ [] ∧ ∀ c ∈ u, isBlank c = false) :
    ([' '].intercalate ws).IsChain Spaced := by
  induction ws with
  | nil => exact .nil
  | cons u ws ih =>
      have hrest : ∀ v ∈ ws, v ≠ [] ∧ ∀ c ∈ v, isBlank c = false :=
        fun v hv => h v (List.mem_cons_of_mem u hv)
      have hword : u.IsChain Spaced :=
        isChain_of_no_blank spaced_of_no_blank (h u List.mem_cons_self).2
      cases ws with
      | nil => simpa using hword
      | cons v ws =>
          have hhead : ∀ d ∈ ([' '].intercalate (v :: ws)).head?, isBlank d = false := by
            intro d hd
            obtain ⟨hne, hink⟩ := hrest v List.mem_cons_self
            obtain ⟨e, es, rfl⟩ := List.exists_cons_of_ne_nil hne
            have hde : e = d := by
              cases ws <;> simpa using hd
            exact hink d (by simp [hde])
          rw [List.intercalate_cons_cons, List.append_assoc, List.isChain_append]
          refine ⟨hword, ?_, fun c hc d _ => ?_⟩
          · rw [List.singleton_append, List.isChain_cons]
            exact ⟨fun d hd _ => hhead d hd, ih hrest⟩
          · exact spaced_of_no_blank c d ((h u List.mem_cons_self).2 c (List.mem_of_getLast? hc))

theorem mem_of_mem_closeMarks {cs : List Char} {c : Char} (h : c ∈ closeMarks cs) : c ∈ cs := by
  induction cs with
  | nil => exact h
  | cons d ds ih =>
      rw [closeMarks] at h
      split at h
      · exact List.mem_cons_of_mem d (ih h)
      · rcases List.mem_cons.mp h with rfl | hmem
        · exact List.mem_cons_self
        · exact List.mem_cons_of_mem d (ih hmem)

/-- Where no two blanks stand in a row, closing the marks leaves none behind a blank. -/
theorem isChain_closeMarks {cs : List Char} (hspaces : ∀ c ∈ cs, isBlank c = true → c = ' ')
    (h : cs.IsChain Spaced) : (closeMarks cs).IsChain Closed := by
  induction cs with
  | nil => exact .nil
  | cons c cs ih =>
      rw [List.isChain_cons] at h
      have hrest := ih (fun d hd => hspaces d (List.mem_cons_of_mem c hd)) h.2
      rw [closeMarks]
      split
      · exact hrest
      · rename_i hopen
        rw [List.isChain_cons]
        refine ⟨fun d hd hblank => ?_, hrest⟩
        obtain rfl : c = ' ' := hspaces c List.mem_cons_self hblank
        cases cs with
        | nil => exact nomatch hd
        | cons e es =>
            have hink : isBlank e = false := h.1 e rfl hblank
            have hmark : isMark e = false := by simpa using hopen
            have hspace : (e == ' ') = false := by
              apply beq_false_of_ne
              rintro rfl
              exact absurd hink (by decide)
            have hde : d = e := by simpa [closeMarks, hspace, eq_comm] using hd
            exact hde ▸ ⟨hink, hmark⟩

/-! ## Labels -/

/-- What is left of a text without tags, amounts, fillers and number signs. -/
def bare (cs : List Char) : List Char :=
  (Text.withoutFinds fillerSearch
    (Text.withoutFinds Figure.search (Text.withoutFinds Tag.search cs))).filter (· != '#')

theorem mem_bare {cs : List Char} : ∀ c ∈ bare cs, c ≠ '#' ∧ isDigit c = false := by
  intro c hc
  rw [bare, List.mem_filter] at hc
  have hpriceless := Text.mem_of_mem_withoutFinds hc.1
  constructor
  · simpa using hc.2
  · exact Figure.isDigit_of_mem_withoutFinds (Tag.isChain_withoutFinds cs) c hpriceless

/-- The text is in normal form, said of each character and the next one. -/
structure Tidy (label : List Char) : Prop where
  nonempty : label ≠ []
  chars : ∀ c ∈ label, c ≠ '#' ∧ isDigit c = false ∧ (isBlank c = true → c = ' ')
  closed : label.IsChain Closed
  head : ∀ c ∈ label.head?, isEdge c = false
  last : ∀ c ∈ label.getLast?, isEdge c = false

/-- What is left of a text is in normal form, if anything is left. -/
theorem tidy_core {cs : List Char} (h : core cs ≠ []) : Tidy (core cs) := by
  have hcore :
      core cs = Text.stripEnds isEdge (closeMarks ([' '].intercalate (Text.words (bare cs)))) := rfl
  have hwords : ∀ u ∈ Text.words (bare cs), u ≠ [] ∧ ∀ c ∈ u, isBlank c = false := fun u hu =>
    ⟨Text.words_ne_nil_of_mem hu, fun c hc => (Text.mem_of_mem_words hu c hc).2⟩
  have hchars : ∀ c ∈ [' '].intercalate (Text.words (bare cs)),
      c ≠ '#' ∧ isDigit c = false ∧ (isBlank c = true → c = ' ') := by
    intro c hc
    rcases mem_of_mem_intercalate hc with rfl | ⟨u, hu, hmem⟩
    · decide
    · obtain ⟨hbare, hink⟩ := Text.mem_of_mem_words hu c hmem
      exact ⟨(mem_bare c hbare).1, (mem_bare c hbare).2, fun hblank => by simp [hink] at hblank⟩
  have hclosed := isChain_closeMarks (fun c hc => (hchars c hc).2.2) (isChain_intercalate hwords)
  have hpart := Text.stripEnds_infix isEdge (closeMarks ([' '].intercalate (Text.words (bare cs))))
  have hends := Text.ends_stripEnds isEdge (closeMarks ([' '].intercalate (Text.words (bare cs))))
  rw [← hcore] at hpart hends
  exact {
    nonempty := h
    chars := fun c hc => hchars c (mem_of_mem_closeMarks (hpart.subset hc))
    closed := List.IsChain.infix hclosed hpart
    head := hends.1
    last := hends.2 }

theorem isEdge_of_isUnsigned {c : Char} (h : isUnsigned c = true) : isEdge c = false := by
  have hne {d : Char} (hd : isUnsigned d = false) : (c == d) = false :=
    beq_false_of_ne (Text.ne_of_isUnsigned h hd)
  rw [isEdge, hne (by decide), hne (by decide), hne (by decide), hne (by decide), hne (by decide),
    hne (by decide)]
  rfl

/-- Letters alone are in normal form. -/
theorem tidy_of_isUnsigned {label : List Char} (hne : label ≠ [])
    (h : ∀ c ∈ label, isUnsigned c = true) :
    Tidy label where
  nonempty := hne
  chars c hc := ⟨Text.ne_of_isUnsigned (h c hc) (by decide), Text.isDigit_of_isUnsigned (h c hc),
    fun hblank => by simp [Text.isBlank_of_isUnsigned (h c hc)] at hblank⟩
  closed := isChain_of_no_blank closed_of_no_blank fun c hc => Text.isBlank_of_isUnsigned (h c hc)
  head c hc := isEdge_of_isUnsigned (h c (List.mem_of_mem_head? hc))
  last c hc := isEdge_of_isUnsigned (h c (List.mem_of_getLast? hc))

/-- A large first letter keeps the normal form: in upper case it consists of letters. -/
theorem Tidy.capitalize {label : List Char} (h : Tidy label) : Tidy (Text.capitalize label) := by
  obtain ⟨c, cs, rfl⟩ := List.exists_cons_of_ne_nil h.nonempty
  rw [Text.capitalize]
  rcases Text.upperChar_cases c with hsame | hunsigned
  · rw [hsame]
    exact h
  · have hupper : Tidy (Text.upperChar c) := tidy_of_isUnsigned (Text.upperChar_ne_nil c) hunsigned
    have hclosed := List.isChain_cons.mp h.closed
    exact {
      nonempty := List.append_ne_nil_of_left_ne_nil hupper.nonempty cs
      chars := by
        intro d hd
        rcases List.mem_append.mp hd with hd | hd
        · exact hupper.chars d hd
        · exact h.chars d (List.mem_cons_of_mem c hd)
      closed := by
        rw [List.isChain_append]
        exact ⟨hupper.closed, hclosed.2, fun d hd e _ =>
          closed_of_no_blank d e
            (Text.isBlank_of_isUnsigned (hunsigned d (List.mem_of_getLast? hd)))⟩
      head := by
        rw [List.head?_append_of_ne_nil _ hupper.nonempty]
        exact hupper.head
      last := by
        cases cs with
        | nil =>
            rw [List.append_nil]
            exact hupper.last
        | cons e es =>
            rw [List.getLast?_append_of_ne_nil _ (List.cons_ne_nil e es)]
            intro d hd
            exact h.last d (by rwa [List.getLast?_cons_cons]) }

/-- The label is in normal form: there is a label, without number signs and digits; blanks in it are
single spaces between other characters, none of them before a mark; and it neither begins nor ends
with a space or with punctuation. -/
structure Neat (label : List Char) : Prop where
  nonempty : label ≠ []
  unsigned : '#' ∉ label
  digitless : ∀ c ∈ label, isDigit c = false
  blanks : ∀ c ∈ label, isBlank c = true → c = ' '
  spaces : ∀ front back, label = front ++ ' ' :: back →
    (∃ c ∈ front.getLast?, isBlank c = false) ∧ ∃ c ∈ back.head?, isBlank c = false ∧
    isMark c = false
  head : ∀ c ∈ label.head?, isEdge c = false
  last : ∀ c ∈ label.getLast?, isEdge c = false

theorem Tidy.neat {label : List Char} (h : Tidy label) : Neat label where
  nonempty := h.nonempty
  unsigned := fun hmem => (h.chars '#' hmem).1 rfl
  digitless := fun c hc => (h.chars c hc).2.1
  blanks := fun c hc => (h.chars c hc).2.2
  spaces := by
    rintro front back rfl
    have hclosed := List.isChain_append.mp h.closed
    constructor
    · cases hlast : front.getLast? with
      | none =>
          -- the label would begin with the space
          rw [List.getLast?_eq_none_iff] at hlast
          have hedge := h.head ' ' (by simp [hlast])
          exact absurd hedge (by decide)
      | some c =>
          refine ⟨c, rfl, Bool.eq_false_iff.mpr fun hblank => ?_⟩
          have hspace := (hclosed.2.2 c hlast ' ' rfl hblank).1
          exact absurd hspace (by decide)
    · cases back with
      | nil =>
          have hedge := h.last ' ' (by simp)
          exact absurd hedge (by decide)
      | cons c cs =>
          have hspace := (List.isChain_cons.mp hclosed.2.1).1 c rfl (by decide)
          exact ⟨c, rfl, hspace⟩
  head := h.head
  last := h.last

/-- Every label is in normal form, whatever the text. -/
theorem neat_derive (text : List Char) : Neat (derive text).toList := by
  unfold derive
  split
  · have hletters : ∀ c ∈ standard.toList, isUnsigned c = true :=
      List.all_eq_true.mp (by decide +kernel)
    exact (tidy_of_isUnsigned (by decide) hletters).neat
  · rename_i hcore
    rw [String.toList_ofList]
    exact (tidy_core hcore).capitalize.neat

end Label

end BukuKas
