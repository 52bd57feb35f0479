import BukuKas.Text.Blank
import BukuKas.Text.Loose
import BukuKas.Text.Piece

/-!
# Texts that are cut

A text that is cut in two has the finds of its front and then those of its back, as long as no find
of the front would go on beyond the cut.  `Search.Stops` says that of a cut: at each place of the
front the search finds the same whether or not the back follows.  A search passes blanks when it
finds nothing at a blank, begins anew behind one, and stops before one; the finds of a text are then
those of the trimmed text.

The rest are laws of runs of characters and of loosely spelled words at a cut.

## Main results

* `piecesFrom_append` : the pieces of a text that is cut where a search stops.
* `Search.PassesBlanks.finds_trim` : blanks at the edges of a text hold no finds.
* `dropLoose?_append_of_head?` : a word is found in the front, or not at all.
-/

namespace BukuKas.Text

/-! ## Runs of characters at a cut -/

/-- A run of characters ends at the cut when the back does not go on with it. -/
theorem takeWhile_append_of_head? {p : Char → Bool} (front : List Char) {back : List Char}
    (h : back.head?.any p = false) : (front ++ back).takeWhile p = front.takeWhile p := by
  have hback : back.takeWhile p = [] := by
    cases back with
    | nil => rfl
    | cons c cs => exact List.takeWhile_cons_of_neg (Bool.eq_false_iff.mp h)
  rw [List.takeWhile_append, hback, List.append_nil]
  split
  · rename_i hlength
    exact ((List.takeWhile_prefix p).eq_of_length hlength).symm
  · rfl

theorem dropWhile_append_of_head? {p : Char → Bool} (front : List Char) {back : List Char}
    (h : back.head?.any p = false) : (front ++ back).dropWhile p = front.dropWhile p ++ back := by
  have hback : back.dropWhile p = back := by
    cases back with
    | nil => rfl
    | cons c cs => exact List.dropWhile_cons_of_neg (Bool.eq_false_iff.mp h)
  rw [List.dropWhile_append, hback]
  split
  · rename_i hempty
    rw [List.isEmpty_iff.mp hempty, List.nil_append]
  · rfl

/-- A run of characters ends in the front when the front does not end with it. -/
theorem takeWhile_append_of_getLast? {p : Char → Bool} {front : List Char} {c : Char}
    (hlast : front.getLast? = some c) (hc : p c = false) (back : List Char) :
    (front ++ back).takeWhile p = front.takeWhile p := by
  rw [List.takeWhile_append, if_neg]
  intro hlength
  have hmem : c ∈ front.takeWhile p := by
    rw [(List.takeWhile_prefix p).eq_of_length hlength]
    exact List.mem_of_getLast? hlast
  exact nomatch hc.symm.trans (List.all_eq_true.mp List.all_takeWhile c hmem)

theorem dropWhile_append_of_getLast? {p : Char → Bool} {front : List Char} {c : Char}
    (hlast : front.getLast? = some c) (hc : p c = false) (back : List Char) :
    (front ++ back).dropWhile p = front.dropWhile p ++ back := by
  rw [List.dropWhile_append, if_neg]
  intro hempty
  have hall := (dropWhile_eq_nil front).mp (List.isEmpty_iff.mp hempty)
  exact nomatch hc.symm.trans (hall c (List.mem_of_getLast? hlast))

theorem drop_takeWhile (p : Char → Bool) (cs : List Char) :
    cs.drop (cs.takeWhile p).length = cs.dropWhile p := by
  induction cs with
  | nil => rfl
  | cons c cs ih => by_cases h : p c <;> simp [h, ih]

/-- What is left behind a run of characters does not go on with it. -/
theorem any_head?_dropWhile (p : Char → Bool) (cs : List Char) :
    (cs.dropWhile p).head?.any p = false := by
  have hnot := List.head?_dropWhile_not p cs
  cases hhead : (cs.dropWhile p).head? with
  | none => rfl
  | some c =>
      rw [hhead] at hnot
      simpa using hnot

/-- A text is its trimmed form between blanks. -/
theorem exists_blanks (cs : List Char) : ∃ front back, cs = front ++ (trim cs ++ back) ∧
    (∀ c ∈ front, isBlank c = true) ∧ ∀ c ∈ back, isBlank c = true := by
  have hback := List.takeWhile_append_dropWhile (p := isBlank) (l := (cs.dropWhile isBlank).reverse)
  refine ⟨cs.takeWhile isBlank, ((cs.dropWhile isBlank).reverse.takeWhile isBlank).reverse, ?_,
    List.all_eq_true.mp List.all_takeWhile, fun c hc => ?_⟩
  · rw [trim, stripEnds, ← List.reverse_append, hback, List.reverse_reverse,
      List.takeWhile_append_dropWhile]
  · exact List.all_eq_true.mp List.all_takeWhile c (List.mem_reverse.mp hc)

/-! ## Blanks one by one -/

/-- The numbers of all blanks. -/
def blankNumbers :
    List Nat := [0x09, 0x0A, 0x0B, 0x0C, 0x0D, 0x1C, 0x1D, 0x1E, 0x1F, 0x20, 0x85, 0xA0, 0x1680,
  0x2000, 0x2001, 0x2002, 0x2003, 0x2004, 0x2005, 0x2006, 0x2007, 0x2008, 0x2009, 0x200A,
  0x2028, 0x2029, 0x202F, 0x205F, 0x3000]

/-- What was checked of the blanks one by one holds of a blank. -/
theorem of_isBlank {p : Char → Bool} (h : blankNumbers.all (fun n => p (Char.ofNat n)) = true)
    {c : Char} (hblank : isBlank c = true) : p c = true := by
  have hmem : c.toNat ∈ blankNumbers := by
    simp only [isBlank, Bool.or_eq_true, Bool.and_eq_true, decide_eq_true_eq, beq_iff_eq] at hblank
    simp only [blankNumbers, List.mem_cons, List.not_mem_nil, or_false]
    omega
  have hc := List.all_eq_true.mp h c.toNat hmem
  rwa [Char.ofNat_toNat] at hc

/-! ## Words at a cut -/

theorem isAlpha_of_isLower {c : Char} (h : c.isLower = true) : c.isAlpha = true := by
  show (c.isUpper || c.isLower) = true
  rw [h, Bool.or_true]

theorem bounds_of_isLower {c : Char} (h : c.isLower = true) : 97 ≤ c.toNat ∧ c.toNat ≤ 122 := by
  obtain ⟨hfrom, hto⟩ := Bool.and_eq_true_iff.mp h
  exact ⟨UInt32.le_iff_toNat_le.mp (of_decide_eq_true hfrom),
    UInt32.le_iff_toNat_le.mp (of_decide_eq_true hto)⟩

/-- What is read as a letter is a letter. -/
theorem isLooseLetter_of_looksLike {letter c : Char} (hletter : letter.isAlpha = true)
    (h : looksLike letter c = true) : isLooseLetter c = true := by
  have hlower : c.toLower = letter → c.isAlpha = true := by
    intro hc
    unfold Char.toLower at hc
    split at hc
    · rename_i hupper
      have hcapital : c.isUpper = true := decide_eq_true hupper
      show (c.isUpper || c.isLower) = true
      rw [hcapital, Bool.true_or]
    · rw [hc]
      exact hletter
  simp only [looksLike, Bool.or_eq_true, Bool.and_eq_true, beq_iff_eq] at h
  unfold isLooseLetter
  rcases h with ((hc | ⟨-, hc | hc⟩) | ⟨-, hc⟩) | ⟨-, hc⟩
  · simp [hlower hc]
  all_goals simp [hc]

/-- A word is as long as what is read as it. -/
theorem length_of_dropLoose? {word cs rest : List Char} (h : dropLoose? word cs = some rest) :
    cs.length = word.length + rest.length := by
  induction word generalizing cs with
  | nil =>
      rw [dropLoose?_nil] at h
      rw [Option.some.inj h, List.length_nil, Nat.zero_add]
  | cons w ws ih =>
      cases cs with
      | nil => exact nomatch h
      | cons c cs =>
          rw [dropLoose?] at h
          split at h
          · have hcs := ih h
            rw [List.length_cons, List.length_cons]
            omega
          · cases h

/-- What stands behind a word ends the text. -/
theorem suffix_of_dropLoose? {word cs rest : List Char} (h : dropLoose? word cs = some rest) :
    rest <:+ cs := by
  induction word generalizing cs with
  | nil =>
      rw [dropLoose?_nil] at h
      exact Option.some.inj h ▸ List.suffix_refl cs
  | cons w ws ih =>
      cases cs with
      | nil => cases h
      | cons c cs =>
          rw [dropLoose?] at h
          split at h
          · exact (ih h).trans (List.suffix_cons c cs)
          · cases h

/-- Where no letter follows the cut, a word is found in the front, or not at all. -/
theorem dropLoose?_append_of_head? {word : List Char} (hword : ∀ w ∈ word, w.isAlpha = true)
    (front : List Char) {back : List Char} (h : back.head?.any isLooseLetter = false) :
    dropLoose? word (front ++ back) = (dropLoose? word front).map (· ++ back) := by
  induction word generalizing front with
  | nil => simp
  | cons w ws ih =>
      obtain ⟨hw, hws⟩ := List.forall_mem_cons.mp hword
      cases front with
      | nil =>
          cases back with
          | nil => rfl
          | cons c cs =>
              have hunlike : looksLike w c ≠ true := fun hlike =>
                Bool.eq_false_iff.mp h (isLooseLetter_of_looksLike hw hlike)
              show (if looksLike w c then dropLoose? ws cs else none) = none
              exact if_neg hunlike
      | cons c cs =>
          rw [List.cons_append, dropLoose?, dropLoose?]
          split
          · exact ih hws cs
          · rfl

/-! ## Searches at a cut -/

variable {α : Type} {search : Search α}

/-- At each place of the front the search finds the same whether or not the back follows, and
nothing that goes on beyond the front. -/
structure Search.Stops (search : Search α) (front back : List Char) : Prop where
  same : ∀ before c cs, c :: cs <:+ front → search before (c :: (cs ++ back)) =
    search before (c :: cs)
  inside : ∀ before c cs find more, c :: cs <:+ front →
    search before (c :: cs) = some (find, more) → more ≤ cs.length

theorem Search.Stops.of_cons {c : Char} {front back : List Char}
    (h : search.Stops (c :: front) back) :
    search.Stops front back where
  same before d ds hds := h.same before d ds (hds.trans (List.suffix_cons c front))
  inside before d ds find more hds :=
    h.inside before d ds find more (hds.trans (List.suffix_cons c front))

/-- The pieces of a text that is cut where the search stops. -/
theorem piecesFrom_append {front back : List Char} (h : search.Stops front back)
    (before : Option Char) {skip : Nat} (hskip : skip ≤ front.length) :
    piecesFrom search before skip (front ++ back) =
      piecesFrom search before skip front ++
        piecesFrom search (front.getLast?.or before) 0 back := by
  induction front generalizing before skip with
  | nil =>
      obtain rfl : skip = 0 := Nat.le_zero.mp hskip
      simp [piecesFrom]
  | cons c cs ih =>
      have hlast : (c :: cs).getLast?.or before = cs.getLast?.or (some c) := by
        rw [List.getLast?_cons]
        cases cs.getLast? <;> rfl
      rw [hlast, List.cons_append]
      cases skip with
      | succ skip => exact ih h.of_cons (some c) (Nat.le_of_succ_le_succ hskip)
      | zero =>
          have hsame := h.same before c cs (List.suffix_refl _)
          rw [piecesFrom, piecesFrom, hsame]
          cases hfound : search before (c :: cs) with
          | none => exact congrArg (Piece.plain c :: ·) (ih h.of_cons (some c) (Nat.zero_le _))
          | some found =>
              obtain ⟨find, more⟩ := found
              have hmore := h.inside before c cs find more (List.suffix_refl _) hfound
              exact congrArg (Piece.found find :: ·) (ih h.of_cons (some c) hmore)

/-- What a find holds is passed over. -/
theorem piecesFrom_skip (before : Option Char) (front back : List Char) :
    piecesFrom search before front.length (front ++ back) =
      piecesFrom search (front.getLast?.or before) 0 back := by
  induction front generalizing before with
  | nil => rfl
  | cons c cs ih =>
      rw [List.cons_append, List.length_cons, piecesFrom, ih, List.getLast?_cons]
      cases cs.getLast? <;> rfl

/-- Where the search does not tell two characters before a text apart, the pieces are the same. -/
theorem piecesFrom_of_same {first second : Option Char}
    (h : ∀ cs, search first cs = search second cs) (cs : List Char) :
    piecesFrom search first 0 cs = piecesFrom search second 0 cs := by
  cases cs with
  | nil => rfl
  | cons c cs => rw [piecesFrom, piecesFrom, h]

/-- Characters in front of a text that belong to no find do not matter for its finds. -/
theorem finds_of_plain {cs front back : List Char}
    (h : pieces search cs = front.map Piece.plain ++ pieces search back) :
    finds search cs = finds search back := by
  rw [finds, h, List.filterMap_append, List.filterMap_map]
  exact congrArg (· ++ finds search back) (List.filterMap_eq_nil_iff.mpr fun _ _ => rfl)

theorem withoutFinds_of_plain {cs front back : List Char}
    (h : pieces search cs = front.map Piece.plain ++ pieces search back) :
    withoutFinds search cs = front ++ withoutFinds search back := by
  rw [withoutFinds, h, List.filterMap_append, List.filterMap_map]
  exact congrArg (· ++ withoutFinds search back) List.filterMap_some

/-! ## Searches that pass blanks -/

variable {blanks : List Char}

/-- A search that passes blanks: it finds nothing at a blank, does not tell a blank before a text
from the beginning of the text, and stops before blanks. -/
structure Search.PassesBlanks (search : Search α) : Prop where
  nothing : ∀ before c cs, isBlank c = true → search before (c :: cs) = none
  anew : ∀ c cs, isBlank c = true → search (some c) cs = search none cs
  stops : ∀ cs blanks, (∀ c ∈ blanks, isBlank c = true) → search.Stops cs blanks

namespace Search.PassesBlanks

theorem piecesFrom_blanks (h : search.PassesBlanks) (hblanks : ∀ c ∈ blanks, isBlank c = true)
    (before : Option Char) : piecesFrom search before 0 blanks = blanks.map Piece.plain := by
  induction blanks generalizing before with
  | nil => rfl
  | cons c blanks ih =>
      obtain ⟨hc, hrest⟩ := List.forall_mem_cons.mp hblanks
      rw [piecesFrom, h.nothing before c _ hc]
      exact congrArg (Piece.plain c :: ·) (ih hrest (some c))

theorem piecesFrom_blanks_append (h : search.PassesBlanks)
    (hblanks : ∀ c ∈ blanks, isBlank c = true)
    (before : Option Char) (hbefore : ∀ cs, search before cs = search none cs) (cs : List Char) :
    piecesFrom search before 0 (blanks ++ cs) = blanks.map Piece.plain ++ pieces search cs := by
  induction blanks generalizing before with
  | nil => exact piecesFrom_of_same hbefore cs
  | cons c blanks ih =>
      obtain ⟨hc, hrest⟩ := List.forall_mem_cons.mp hblanks
      rw [List.cons_append, piecesFrom, h.nothing before c _ hc]
      exact congrArg (Piece.plain c :: ·) (ih hrest (some c) fun cs => h.anew c cs hc)

theorem pieces_blanks_append (h : search.PassesBlanks) (hblanks : ∀ c ∈ blanks, isBlank c = true)
    (cs : List Char) : pieces search (blanks ++ cs) = blanks.map Piece.plain ++ pieces search cs :=
  h.piecesFrom_blanks_append hblanks none (fun _ => rfl) cs

theorem pieces_append_blanks (h : search.PassesBlanks) (cs : List Char)
    (hblanks : ∀ c ∈ blanks, isBlank c = true) :
    pieces search (cs ++ blanks) = pieces search cs ++ blanks.map Piece.plain := by
  have hback := h.piecesFrom_blanks hblanks (cs.getLast?.or none)
  rw [pieces, piecesFrom_append (h.stops cs blanks hblanks) none (Nat.zero_le _), hback,
    pieces]

theorem withoutFinds_blanks_append (h : search.PassesBlanks)
    (hblanks : ∀ c ∈ blanks, isBlank c = true)
    (cs : List Char) : withoutFinds search (blanks ++ cs) = blanks ++ withoutFinds search cs :=
  withoutFinds_of_plain (h.pieces_blanks_append hblanks cs)

theorem withoutFinds_append_blanks (h : search.PassesBlanks) (cs : List Char)
    (hblanks : ∀ c ∈ blanks, isBlank c = true) :
    withoutFinds search (cs ++ blanks) = withoutFinds search cs ++ blanks := by
  rw [withoutFinds, h.pieces_append_blanks cs hblanks, List.filterMap_append, List.filterMap_map]
  exact congrArg (withoutFinds search cs ++ ·) List.filterMap_some

theorem finds_blanks_append (h : search.PassesBlanks) (hblanks : ∀ c ∈ blanks, isBlank c = true)
    (cs : List Char) : finds search (blanks ++ cs) = finds search cs :=
  finds_of_plain (h.pieces_blanks_append hblanks cs)

theorem finds_append_blanks (h : search.PassesBlanks) (cs : List Char)
    (hblanks : ∀ c ∈ blanks, isBlank c = true) : finds search (cs ++ blanks) = finds search cs := by
  rw [finds, h.pieces_append_blanks cs hblanks, List.filterMap_append, List.filterMap_map]
  exact (congrArg (finds search cs ++ ·) (List.filterMap_eq_nil_iff.mpr fun _ _ => rfl)).trans
    (List.append_nil _)

/-- Trimming keeps the finds. -/
theorem finds_trim (h : search.PassesBlanks) (cs : List Char) :
    finds search (trim cs) = finds search cs := by
  obtain ⟨front, back, hcs, hfront, hback⟩ := exists_blanks cs
  calc finds search (trim cs) = finds search (trim cs ++ back) :=
        (h.finds_append_blanks _ hback).symm
    _ = finds search (front ++ (trim cs ++ back)) := (h.finds_blanks_append hfront _).symm
    _ = finds search cs := by rw [← hcs]

end Search.PassesBlanks

end BukuKas.Text
