import BukuKas.Proofs.Command.Reading
import BukuKas.Proofs.Text.Digits
import Mathlib.Data.List.Forall2

/-!
# The segments of a list

The entries of a list of expenses are those of its segments that name an amount, one entry a
segment, in order.  The other segments are passed over, the empty ones among them.

## Main results

* `forall₂_of_classify` : the segments that name an amount, and the entries that are read from them.
-/

namespace BukuKas

open Calendar (Date)
open Text (isDigit lower trim)

/-- Whether a text names an amount. -/
def Amount.isNamedIn (cs : List Char) : Bool :=
  match extract cs with
  | .ok (some _) => true
  | _ => false

/-- What names an amount has a digit. -/
theorem Amount.exists_digit {cs : List Char} (h : isNamedIn cs = true) :
    ∃ d ∈ cs, isDigit d = true := by
  cases hfigures : Figure.allIn cs with
  | nil =>
      unfold isNamedIn extract at h
      rw [hfigures] at h
      exact nomatch h
  | cons figure others =>
      have hmem : figure ∈ Text.finds Figure.search cs := by
        show figure ∈ Figure.allIn cs
        simp [hfigures]
      obtain ⟨before, rest, more, hrest, hsearch⟩ := Text.mem_finds hmem
      cases rest with
      | nil => exact nomatch hsearch
      | cons c rest =>
          rw [Figure.search] at hsearch
          split at hsearch
          · rename_i hstart
            rw [Bool.and_eq_true] at hstart
            exact ⟨c, hrest.subset List.mem_cons_self, hstart.1⟩
          · exact nomatch hsearch

namespace Command

variable {today : Date}

/-- The segments that name an amount. -/
def pricedSegments (raw : List Char) : List (List Char) :=
  (segments raw).filter fun segment => Amount.isNamedIn (trim segment)

/-- What is read from a text has the amount that the text names. -/
theorem extract_of_readEntry {text : List Char} {found : Option Entry}
    (h : readEntry text today = .ok found) :
    Amount.extract text = .ok (found.map Entry.amount) := by
  unfold readEntry at h
  split at h
  · exact nomatch h
  · rename_i hextract
    injection h with h
    rw [hextract, ← h]
    rfl
  · rename_i amount hextract
    split at h
    · exact nomatch h
    · injection h with h
      rw [hextract, ← h]
      rfl

/-- What names an amount, and can be read, is an entry. -/
theorem isNamedIn_of_readEntry {text : List Char} {found : Option Entry}
    (h : readEntry text today = .ok found) : Amount.isNamedIn text = found.isSome := by
  rw [Amount.isNamedIn, extract_of_readEntry h]
  cases found <;> rfl

/-- The entries of a list are read from the segments that name an amount. -/
theorem forall₂_of_entriesOf {parts : List (List Char)} {es : List Entry}
    (h : entriesOf today ((parts.map trim).filter (!·.isEmpty)) = .ok es) :
    List.Forall₂ (fun part e => readEntry (trim part) today = .ok (some e))
      (parts.filter fun part => Amount.isNamedIn (trim part)) es := by
  induction parts generalizing es with
  | nil =>
      injection h with h
      rw [← h]
      exact .nil
  | cons part parts ih =>
      rw [List.map_cons] at h
      by_cases hempty : trim part = []
      · rw [hempty, List.filter_cons_of_neg (by simp)] at h
        rw [List.filter_cons_of_neg (by rw [hempty]; decide)]
        exact ih h
      · rw [List.filter_cons_of_pos (by simpa using hempty), entriesOf] at h
        split at h
        · cases h
        · rename_i first hfirst
          split at h
          · cases h
          · rename_i others hothers
            injection h with h
            have hnamed := isNamedIn_of_readEntry hfirst
            cases first with
            | none =>
                rw [List.filter_cons_of_neg (by rw [hnamed]; decide), ← h]
                exact ih hothers
            | some e =>
                rw [List.filter_cons_of_pos (by rw [hnamed]; rfl), ← h]
                exact .cons hfirst (ih hothers)

/-- The entries of a list of expenses, each read from its segment; and the text has a comma. -/
theorem forall₂_of_classify {text : List Char} {es : List Entry}
    (h : classify text today = .ok (.addMany es)) : ',' ∈ trim text ∧
      List.Forall₂ (fun segment e => readEntry (trim segment) today = .ok (some e))
        (pricedSegments (trim text)) es := by
  rcases classify_cases h with hnone | hmany | hsingle
  · exact nomatch hnone
  · obtain ⟨entries, hentries, -, hread⟩ := entriesOf_of_many? hmany
    injection hentries with hentries
    refine ⟨?_, hentries ▸ forall₂_of_entriesOf hread⟩
    unfold many? at hmany
    split at hmany
    · rename_i hcomma
      exact List.contains_iff_mem.mp hcomma
    · exact nomatch hmany
  · obtain ⟨e, -, he⟩ := Reading.map_eq_some hsingle
    exact nomatch he

/-- A text that is read as one expense has the entry that is read from it. -/
theorem readEntry_of_classify {text : List Char} {e : Entry}
    (h : classify text today = .ok (.add e)) :
    readEntry (trim text) today = .ok (some e) := by
  rcases classify_cases h with hnone | hmany | hsingle
  · exact nomatch hnone
  · obtain ⟨entries, hentries, -⟩ := entriesOf_of_many? hmany
    exact nomatch hentries
  · obtain ⟨found, hread, hfound⟩ := Reading.map_eq_some hsingle
    injection hfound with hfound
    exact hfound ▸ hread

theorem classify_trim (text : List Char) : classify (trim text) today = classify text today := by
  unfold classify
  rw [Text.trim_trim]

end Command

end BukuKas
