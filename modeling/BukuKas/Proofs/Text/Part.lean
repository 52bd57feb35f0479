import BukuKas.Text.Blank
import BukuKas.Text.Case
import BukuKas.Text.Digit
import BukuKas.Text.Piece

/-!
# Parts of a text

What is cut out of a text stands in it, one character behind the other: a trimmed text, what a
search finds, and the digits of a text in lower case.  The last is not obvious, since lower case can
make a text longer; but no letter has a digit in its lower case, and every digit is its own.

A text that is cut at a character falls into the parts between the cuts.

## Main results

* `trim_infix` : a trimmed text stands in the text.
* `mem_finds`, `mem_of_mem_withoutFinds` : a find begins somewhere in the text, and what is left
  stood in it.
* `suffix_of_suffix_lowerFrom` : digits that end the lower case of a text end the text.
* `mem_splitAt_iff` : the parts of a text that is cut at a character.
-/

namespace BukuKas.Text

/-! ## Trimming and searching -/

theorem stripEnds_infix (p : Char → Bool) (cs : List Char) : stripEnds p cs <:+: cs := by
  have hback : (cs.dropWhile p).reverse.dropWhile p <:+ (cs.dropWhile p).reverse :=
    List.dropWhile_suffix p
  have hfront : stripEnds p cs <+: cs.dropWhile p := by
    have hreverse := List.reverse_prefix.mpr hback
    rwa [List.reverse_reverse] at hreverse
  exact hfront.isInfix.trans (List.dropWhile_suffix p).isInfix

/-- A trimmed text stands in the text. -/
theorem trim_infix (cs : List Char) : trim cs <:+: cs := stripEnds_infix isBlank cs

theorem mem_finds_piecesFrom {α : Type} {search : Search α} {find : α} {before : Option Char}
    {skip : Nat} {cs : List Char} (h : Piece.found find ∈ piecesFrom search before skip cs) :
    ∃ earlier rest more, rest <:+ cs ∧ search earlier rest = some (find, more) := by
  induction cs generalizing before skip with
  | nil => simp [piecesFrom] at h
  | cons c cs ih =>
      have hlater {earlier : Option Char} {skip : Nat}
          (hmem : Piece.found find ∈ piecesFrom search earlier skip cs) :
          ∃ earlier rest more, rest <:+ c :: cs ∧ search earlier rest = some (find, more) := by
        obtain ⟨other, rest, more, hrest, hsearch⟩ := ih hmem
        exact ⟨other, rest, more, hrest.trans (List.suffix_cons c cs), hsearch⟩
      cases skip with
      | succ skip => exact hlater h
      | zero =>
          rw [piecesFrom] at h
          split at h
          · rcases List.mem_cons.mp h with hplain | hmem
            · cases hplain
            · exact hlater hmem
          · rename_i first more hsearch
            rcases List.mem_cons.mp h with hfound | hmem
            · injection hfound with hfound
              exact ⟨before, c :: cs, more, List.suffix_refl _, hfound ▸ hsearch⟩
            · exact hlater hmem

/-- A find begins somewhere in the text. -/
theorem mem_finds {α : Type} {search : Search α} {find : α} {cs : List Char}
    (h : find ∈ finds search cs) :
    ∃ before rest more, rest <:+ cs ∧ search before rest = some (find, more) := by
  obtain ⟨piece, hpiece, hfind⟩ := List.mem_filterMap.mp h
  cases piece with
  | plain c => exact nomatch hfind
  | found other =>
      injection hfind with hfind
      exact mem_finds_piecesFrom (hfind ▸ hpiece)

/-! ## Without the finds -/

section

variable {α : Type} {search : Search α} {before : Option Char} {c : Char} {cs : List Char}

/-- What is left of a text without its finds, when its first characters belong to a find. -/
def leftFrom (search : Search α) (before : Option Char) (skip : Nat) (cs : List Char) : List Char :=
  (piecesFrom search before skip cs).filterMap fun
    | .plain c => some c
    | .found _ => none

theorem leftFrom_of_none (h : search before (c :: cs) = none) :
    leftFrom search before 0 (c :: cs) = c :: leftFrom search (some c) 0 cs := by
  simp [leftFrom, piecesFrom, h]

theorem leftFrom_of_some {find : α} {more : Nat} (h : search before (c :: cs) = some (find, more)) :
    leftFrom search before 0 (c :: cs) = leftFrom search (some c) more cs := by
  simp [leftFrom, piecesFrom, h]

theorem mem_of_mem_leftFrom {d : Char} {skip : Nat} (h : d ∈ leftFrom search before skip cs) :
    d ∈ cs := by
  induction cs generalizing before skip with
  | nil => exact nomatch h
  | cons c cs ih =>
      cases skip with
      | succ skip => exact List.mem_cons_of_mem c (ih h)
      | zero =>
          cases hsearch : search before (c :: cs) with
          | none =>
              rw [leftFrom_of_none hsearch] at h
              rcases List.mem_cons.mp h with rfl | hmem
              · exact List.mem_cons_self
              · exact List.mem_cons_of_mem c (ih hmem)
          | some found =>
              rw [leftFrom_of_some hsearch] at h
              exact List.mem_cons_of_mem c (ih h)

/-- What is left without the finds stood in the text. -/
theorem mem_of_mem_withoutFinds {d : Char} (h : d ∈ withoutFinds search cs) : d ∈ cs :=
  mem_of_mem_leftFrom h

end

/-! ## Digits in lower case -/

/-- A digit lies in one of the blocks of ten. -/
theorem block_of_isDigit {c : Char} (h : isDigit c = true) :
    ∃ nought ∈ zeroDigits, nought ≤ c.toNat ∧ c.toNat < nought + 10 := by
  obtain ⟨v, hv⟩ := isDigit_iff.mp h
  unfold digitValue? at hv
  split at hv
  · split at hv
    · rename_i hrange
      simp only [Bool.and_eq_true, decide_eq_true_eq] at hrange
      exact ⟨0x30, by decide, by omega, by omega⟩
    · exact nomatch hv
  · obtain ⟨nought, hfind, -⟩ := Option.map_eq_some_iff.mp hv
    have hrange := List.find?_some hfind
    simp only [Bool.and_eq_true, decide_eq_true_eq] at hrange
    exact ⟨nought, List.mem_of_find?_eq_some hfind, hrange⟩

/-- No run of the lower case leads into a block of digits. -/
theorem lowerRuns_avoid_digits : ∀ run ∈ lowerRuns, ∀ nought ∈ zeroDigits,
    (run.last : Int) + run.shift < nought ∨
    (nought : Int) + 10 ≤ (run.first : Int) + run.shift := by
  decide +kernel

theorem toNat_ofNat_of_isDigit {n : Nat} (h : isDigit (Char.ofNat n) = true) :
    (Char.ofNat n).toNat = n := by
  by_cases hvalid : n.isValidChar
  · rw [Char.ofNat, dif_pos hvalid]
    rfl
  · have hzero : Char.ofNat n = Char.ofNat 0 := by
      rw [Char.ofNat, dif_neg hvalid]
      rfl
    rw [hzero] at h
    exact absurd h (by decide)

/-- A letter that is moved to its lower case does not become a digit. -/
theorem isDigit_move {n moved : Nat} (h : CaseRun.move? lowerRuns n = some moved) :
    isDigit (Char.ofNat moved) = false := by
  obtain ⟨run, hfind, hmoved⟩ := Option.map_eq_some_iff.mp h
  have hrange := List.find?_some hfind
  simp only [Bool.and_eq_true, decide_eq_true_eq] at hrange
  obtain ⟨⟨hfirst, hlast⟩, -⟩ := hrange
  apply Bool.eq_false_iff.mpr
  intro hdigit
  obtain ⟨nought, hnought, hfrom, hto⟩ := block_of_isDigit hdigit
  rw [toNat_ofNat_of_isDigit hdigit] at hfrom hto
  have hpositive : ∀ other ∈ zeroDigits, 0 < other := by decide
  have hnonzero := hpositive nought hnought
  have hshift : (moved : Int) = n + run.shift := by
    have htoNat : moved = ((n : Int) + run.shift).toNat := hmoved.symm
    omega
  have havoid := lowerRuns_avoid_digits run (List.mem_of_find?_eq_some hfind) nought hnought
  omega

/-- An ASCII character is its own lower case, or is moved to a letter. -/
theorem toLower_cases {c : Char} (h : c.toNat < 0x80) :
    c.toLower = c ∨ isDigit c.toLower = false := by
  have hall : ∀ n < 0x80, (Char.ofNat n).toLower = Char.ofNat n ∨
      isDigit (Char.ofNat n).toLower = false := by decide +kernel
  have hc := hall c.toNat h
  rwa [Char.ofNat_toNat] at hc

theorem not_isDigit_of_all {cs : List Char} (h : cs.all (fun d => !isDigit d) = true) :
    ∀ d ∈ cs, isDigit d = false := fun d hd =>
  Bool.not_eq_true' _ ▸ List.all_eq_true.mp h d hd

theorem not_isDigit_of_words {words : List String}
    (h : words.all (fun word => word.toList.all fun d => !isDigit d) = true) :
    ∀ word ∈ words, ∀ d ∈ word.toList, isDigit d = false := fun word hword =>
  not_isDigit_of_all (List.all_eq_true.mp h word hword)

/-- A character is its own lower case, or its lower case holds no digit. -/
theorem lowerChar_cases (c : Char) :
    lowerChar c = [c] ∨ (lowerChar c ≠ [] ∧ ∀ d ∈ lowerChar c, isDigit d = false) := by
  unfold lowerChar
  split
  · rename_i hascii
    rcases toLower_cases hascii with hsame | hletter
    · exact .inl (by rw [hsame])
    · exact .inr ⟨by simp, by simpa using hletter⟩
  · unfold mapCase
    split
    · rename_i points hlookup
      obtain ⟨earlier, later, htable, -⟩ := List.lookup_eq_some_iff.mp hlookup
      have hmem : (c.toNat, points) ∈ lowerExpansions := by
        rw [htable]
        simp
      have hall : lowerExpansions.all (fun expansion => !expansion.2.isEmpty &&
          (expansion.2.map Char.ofNat).all fun d => !isDigit d) = true := by decide +kernel
      have hexpansion := List.all_eq_true.mp hall _ hmem
      rw [Bool.and_eq_true] at hexpansion
      exact .inr ⟨by simpa using hexpansion.1, not_isDigit_of_all hexpansion.2⟩
    · cases hmove : CaseRun.move? lowerRuns c.toNat with
      | none => exact .inl rfl
      | some moved =>
          have hletter := isDigit_move hmove
          exact .inr ⟨by simp, by simpa using hletter⟩

/-- The lower case of a text begins with that of its first character. -/
theorem lowerFrom_cons (before : List Char) (c : Char) (cs : List Char) :
    ∃ head, lowerFrom before (c :: cs) = head ++ lowerFrom (c :: before) cs ∧
      (head = [c] ∨ (head ≠ [] ∧ ∀ d ∈ head, isDigit d = false)) := by
  refine ⟨_, rfl, ?_⟩
  split
  · right
    split
    · exact ⟨by simp, not_isDigit_of_all (by decide)⟩
    · exact ⟨by simp, not_isDigit_of_all (by decide)⟩
  · exact lowerChar_cases c

theorem length_le_length_lowerFrom (before cs : List Char) :
    cs.length ≤ (lowerFrom before cs).length := by
  induction cs generalizing before with
  | nil => exact Nat.le_refl 0
  | cons c cs ih =>
      obtain ⟨head, heq, hhead⟩ := lowerFrom_cons before c cs
      have hrest := ih (c :: before)
      have hpos : 0 < head.length := by
        rcases hhead with hsame | ⟨hne, -⟩
        · simp [hsame]
        · exact List.length_pos_iff.mpr hne
      rw [heq, List.length_append, List.length_cons]
      omega

/-- Digits that end the lower case of a text end the text. -/
theorem suffix_of_suffix_lowerFrom {ds : List Char} (hdigits : ∀ d ∈ ds, isDigit d = true)
    {before cs : List Char} (h : ds <:+ lowerFrom before cs) : ds <:+ cs := by
  induction cs generalizing before ds with
  | nil => exact h
  | cons c cs ih =>
      obtain ⟨head, heq, hhead⟩ := lowerFrom_cons before c cs
      obtain ⟨front, hfront⟩ := h
      rw [heq] at hfront
      rcases List.append_eq_append_iff.mp hfront with ⟨part, hpart, hds⟩ | ⟨part, -, hrest⟩
      · have hrest : lowerFrom (c :: before) cs <:+ cs := by
          have hdigitsRest : ∀ d ∈ lowerFrom (c :: before) cs, isDigit d = true := fun d hd =>
            hdigits d (by simp [hds, hd])
          exact ih hdigitsRest (List.suffix_refl _)
        -- Nothing of the rest was lost, so it is the rest of the text itself.
        have hsame : lowerFrom (c :: before) cs = cs :=
          hrest.eq_of_length_le (length_le_length_lowerFrom (c :: before) cs)
        rw [hsame] at hds
        rcases hhead with hself | ⟨-, hletters⟩
        · rw [hds, ← List.singleton_append (x := c), ← hself, hpart]
          exact ⟨front, by simp⟩
        · cases part with
          | nil => exact ⟨[c], by simp [hds]⟩
          | cons d part =>
              have hletter := hletters d (by simp [hpart])
              have hdigit := hdigits d (by simp [hds])
              exact absurd (hdigit.symm.trans hletter) (by decide)
      · exact (ih hdigits ⟨part, hrest.symm⟩).trans (List.suffix_cons c cs)

/-! ## Cutting at a character -/

section Cutting

variable {sep : Char} {cs part : List Char}

/-- A text has a part before its first cut, and the parts behind it. -/
theorem exists_splitAt (sep : Char) (cs : List Char) :
    ∃ part parts, splitAt sep cs = part :: parts := by
  cases cs with
  | nil => exact ⟨[], [], rfl⟩
  | cons c cs =>
      rw [splitAt]
      split
      · exact ⟨_, _, rfl⟩
      · split <;> exact ⟨_, _, rfl⟩

@[simp] theorem splitAt_cons_self (sep : Char) (cs : List Char) :
    splitAt sep (sep :: cs) = [] :: splitAt sep cs := by
  obtain ⟨part, parts, hsplit⟩ := exists_splitAt sep cs
  simp [splitAt, hsplit]

theorem splitAt_cons_of_ne {c : Char} (hc : c ≠ sep) {part : List Char} {parts : List (List Char)}
    (hsplit : splitAt sep cs = part :: parts) : splitAt sep (c :: cs) = (c :: part) :: parts := by
  simp [splitAt, hsplit, hc]

/-- No cut goes through a part. -/
theorem not_mem_of_mem_splitAt (h : part ∈ splitAt sep cs) : sep ∉ part := by
  induction cs generalizing part with
  | nil =>
      rw [splitAt, List.mem_singleton] at h
      exact h ▸ List.not_mem_nil
  | cons c cs ih =>
      by_cases hc : c = sep
      · subst hc
        rw [splitAt_cons_self, List.mem_cons] at h
        rcases h with rfl | h
        · exact List.not_mem_nil
        · exact ih h
      · obtain ⟨first, parts, hsplit⟩ := exists_splitAt sep cs
        rw [splitAt_cons_of_ne hc hsplit, List.mem_cons] at h
        rcases h with rfl | h
        · have hfirst := ih (hsplit ▸ List.mem_cons_self)
          rw [List.mem_cons, not_or]
          exact ⟨Ne.symm hc, hfirst⟩
        · exact ih (hsplit ▸ List.mem_cons_of_mem first h)

theorem splitAt_append (front back : List Char) :
    splitAt sep (front ++ sep :: back) = splitAt sep front ++ splitAt sep back := by
  induction front with
  | nil => exact splitAt_cons_self sep back
  | cons c front ih =>
      by_cases hc : c = sep
      · subst hc
        rw [List.cons_append, splitAt_cons_self, splitAt_cons_self, ih, List.cons_append]
      · obtain ⟨first, parts, hsplit⟩ := exists_splitAt sep front
        rw [hsplit, List.cons_append] at ih
        rw [List.cons_append, splitAt_cons_of_ne hc hsplit, splitAt_cons_of_ne hc ih,
          List.cons_append]

theorem splitAt_of_not_mem (h : sep ∉ cs) : splitAt sep cs = [cs] := by
  induction cs with
  | nil => rfl
  | cons c cs ih =>
      rw [List.mem_cons, not_or] at h
      exact splitAt_cons_of_ne (Ne.symm h.1) (ih h.2)

theorem splitAt_intercalate (before after : List (List Char)) (h : sep ∉ part) :
    part ∈ splitAt sep ([sep].intercalate (before ++ part :: after)) := by
  induction before with
  | nil =>
      cases after with
      | nil => simp [splitAt_of_not_mem h]
      | cons next after =>
          rw [List.nil_append, List.intercalate_cons_cons, List.append_assoc, List.singleton_append,
            splitAt_append, splitAt_of_not_mem h]
          exact List.mem_append_left _ List.mem_cons_self
  | cons first before ih =>
      obtain ⟨next, rest, hrest⟩ := List.exists_cons_of_ne_nil
        (show before ++ part :: after ≠ [] by simp)
      rw [List.cons_append, hrest, List.intercalate_cons_cons, List.append_assoc,
        List.singleton_append, splitAt_append, ← hrest]
      exact List.mem_append_right _ ih

/-- The parts of a cut text are what stands between cuts, wherever it stands. -/
theorem mem_splitAt_iff : part ∈ splitAt sep cs ↔
    sep ∉ part ∧ ∃ before after, cs = [sep].intercalate (before ++ part :: after) := by
  constructor
  · intro h
    obtain ⟨before, after, hparts⟩ := List.append_of_mem h
    refine ⟨not_mem_of_mem_splitAt h, before, after, ?_⟩
    rw [← hparts, intercalate_splitAt]
  · rintro ⟨hpart, before, after, rfl⟩
    exact splitAt_intercalate before after hpart

end Cutting

end BukuKas.Text
