import BukuKas.Proofs.Command.Edge

/-!
# Tags of an entry

A tag before an expense or behind it chooses its category, and touches nothing else of its entry.
Its digits are no figure, since the number sign stands before them; it is cut out before the label
is read; and its characters have no case, so no word is found or lost beside it.

## Main results

* `Figure.allIn_tag_append`, `Tag.pieces_tag_append` : a tag in the search for figures and for tags.
* `Tagged.readEntry` : the entry of a tagged text.
-/

namespace BukuKas

open Calendar (Date)
open Number (Writes)
open Text (isDigit isBlank IsNeutral lower)

variable {numeral text tagged rest : List Char} {n : Nat}

/-! ## Figures and tags -/

namespace Figure

/-- Behind a character that is no digit the search begins anew, even if a figure may not begin
there. -/
theorem piecesFrom_of_not_digit (h : rest.head?.any isDigit = false) (before : Option Char) :
    Text.piecesFrom search before 0 rest = Text.pieces search rest := by
  cases rest with
  | nil => rfl
  | cons c cs =>
      have hdigit : isDigit c = false := h
      rw [Text.pieces, Text.piecesFrom, Text.piecesFrom, search, search, hdigit]
      rfl

/-- No figure begins among the digits of a tag. -/
theorem piecesFrom_bound {b : Char} (hb : b = '#' ∨ isDigit b = true)
    (hdigits : ∀ d ∈ numeral, isDigit d = true) (h : rest.head?.any isDigit = false) :
    Text.piecesFrom search (some b) 0 (numeral ++ rest) =
      numeral.map Text.Piece.plain ++ Text.pieces search rest := by
  induction numeral generalizing b with
  | nil => exact piecesFrom_of_not_digit h (some b)
  | cons d ds ih =>
      obtain ⟨hd, hds⟩ := List.forall_mem_cons.mp hdigits
      have hbound : (b == '#' || isDigit b) = true := by
        rcases hb with rfl | hb
        · rfl
        · rw [hb, Bool.or_true]
      have hnone : search (some b) (d :: (ds ++ rest)) = none := by
        rw [search, Option.any_some, hbound, hd]
        rfl
      rw [List.cons_append, Text.piecesFrom, hnone]
      exact congrArg (Text.Piece.plain d :: ·) (ih (.inr hd) hds)

/-- A tag holds no figure. -/
theorem allIn_tag_append (hdigits : ∀ d ∈ numeral, isDigit d = true)
    (h : rest.head?.any isDigit = false) :
    allIn ('#' :: (numeral ++ rest)) = allIn rest := by
  have hpieces : Text.pieces search ('#' :: (numeral ++ rest)) =
      ('#' :: numeral).map Text.Piece.plain ++ Text.pieces search rest := by
    rw [Text.pieces, Text.piecesFrom, search, if_neg (by decide)]
    exact congrArg (Text.Piece.plain '#' :: ·) (piecesFrom_bound (.inl rfl) hdigits h)
  exact Text.finds_of_plain hpieces

end Figure

namespace Tag

/-- A tag is found where it begins. -/
theorem pieces_tag_append (hn : Writes numeral n) (h : rest.head?.any isDigit = false) :
    Text.pieces search ('#' :: (numeral ++ rest)) = .found numeral :: Text.pieces search rest := by
  have htake : (numeral ++ rest).takeWhile isDigit = numeral := by
    rw [Text.takeWhile_append_of_head? numeral h]
    exact List.takeWhile_eq_self_iff.mpr hn.digits
  rw [Text.pieces, Text.piecesFrom, search_sign, htake, if_neg (by simpa using hn.nonempty)]
  dsimp only
  rw [Text.piecesFrom_skip, Text.piecesFrom_of_same (search_eq _), Text.pieces]

/-- Without a number sign there is no tag. -/
theorem pieces_append {front : List Char} (h : '#' ∉ front) (rest : List Char) :
    Text.pieces search (front ++ rest) = front.map Text.Piece.plain ++ Text.pieces search rest := by
  induction front with
  | nil => rfl
  | cons c cs ih =>
      rw [List.mem_cons, not_or] at h
      rw [List.cons_append, Text.pieces, Text.piecesFrom, search_of_ne (Ne.symm h.1),
        Text.piecesFrom_of_same (search_eq (some c)), ← Text.pieces, ih h.2]
      rfl

theorem finds_of_not_mem (h : '#' ∉ text) : Text.finds search text = [] := by
  have hplain := pieces_append h []
  rw [List.append_nil] at hplain
  exact Text.finds_of_plain hplain

theorem withoutFinds_of_not_mem (h : '#' ∉ text) : Text.withoutFinds search text = text := by
  have hplain := pieces_append h []
  rw [List.append_nil] at hplain
  exact (Text.withoutFinds_of_plain hplain).trans (List.append_nil text)

end Tag

/-! ## Tagged texts -/

/-- The text with a tag before it or behind it, and blanks between them. -/
inductive Tagged (numeral text : List Char) : (tagged : List Char) → Prop where
  | front {gap : List Char} (hne : gap ≠ []) (hgap : ∀ c ∈ gap, isBlank c = true) :
      Tagged numeral text ('#' :: (numeral ++ (gap ++ text)))
  | back {gap : List Char} (hne : gap ≠ []) (hgap : ∀ c ∈ gap, isBlank c = true) :
      Tagged numeral text (text ++ (gap ++ '#' :: numeral))

namespace Tagged

/-- No digit of a tag is followed by another one behind the blanks. -/
theorem head?_gap {gap : List Char} (hne : gap ≠ []) (hgap : ∀ c ∈ gap, isBlank c = true)
    (cs : List Char) : (gap ++ cs).head?.any isDigit = false := by
  obtain ⟨c, blanks, rfl⟩ := List.exists_cons_of_ne_nil hne
  exact (Figure.isInert_of_isBlank (hgap c List.mem_cons_self)).digit

theorem mem_sign (h : Tagged numeral text tagged) : '#' ∈ tagged := by
  cases h with
  | front => exact List.mem_cons_self
  | back => exact List.mem_append_right _ (List.mem_append_right _ List.mem_cons_self)

theorem not_mem_gap {gap : List Char} (hsign : '#' ∉ text) (hgap : ∀ c ∈ gap, isBlank c = true) :
    '#' ∉ gap ++ text ∧ '#' ∉ text ++ gap := by
  have hblank : '#' ∉ gap := fun hmem => absurd (hgap '#' hmem) (by decide)
  simp [hblank, hsign]

/-- The figures of a tagged text. -/
theorem allIn_eq (h : Tagged numeral text tagged) (hn : Writes numeral n) :
    Figure.allIn tagged = Figure.allIn text := by
  cases h with
  | @front gap hne hgap =>
      rw [Figure.allIn_tag_append hn.digits (head?_gap hne hgap text)]
      exact Figure.passesBlanks.finds_blanks_append hgap text
  | @back gap hne hgap =>
      obtain ⟨c, blanks, rfl⟩ := List.exists_cons_of_ne_nil hne
      obtain ⟨hc, hblanks⟩ := List.forall_mem_cons.mp hgap
      have hinert := Figure.isInert_of_isBlank hc
      have htag : Figure.allIn ('#' :: numeral) = [] := by
        have happend : Figure.allIn ('#' :: (numeral ++ [])) = Figure.allIn [] :=
          Figure.allIn_tag_append hn.digits rfl
        rwa [List.append_nil] at happend
      have hends : Figure.Ends text (c :: blanks ++ '#' :: numeral) :=
        Figure.ends_blanks_append text hne hgap
          (by rw [List.dropWhile_cons_of_neg (by decide)]; rfl)
      rw [List.cons_append] at hends
      have hback : Figure.allIn (blanks ++ '#' :: numeral) = [] :=
        (Figure.passesBlanks.finds_blanks_append hblanks _).trans htag
      rw [List.cons_append, Figure.allIn_append hends hinert, hback, List.append_nil]

/-- The tag of a tagged text is the only one. -/
theorem extract_tag (h : Tagged numeral text tagged) (hn : Writes numeral n) (hsign : '#' ∉ text) :
    Tag.extract tagged = .ok (some n) := by
  have hread : Number.readNat numeral = .ok n := by
    rw [Number.readNat, if_neg (Nat.not_lt.mpr hn.short), hn.value]
  obtain ⟨others, hothers⟩ : ∃ others, Text.finds Tag.search tagged = numeral :: others := by
    cases h with
    | front hne hgap =>
        rw [Text.finds, Tag.pieces_tag_append hn (head?_gap hne hgap text)]
        exact ⟨_, rfl⟩
    | @back gap hne hgap =>
        have htag : Text.pieces Tag.search ('#' :: (numeral ++ [])) = [.found numeral] :=
          Tag.pieces_tag_append hn rfl
        rw [List.append_nil] at htag
        refine ⟨[], ?_⟩
        rw [← List.append_assoc,
          Text.finds_of_plain (Tag.pieces_append (not_mem_gap hsign hgap).2 _), Text.finds, htag]
        rfl
  rw [Tag.extract, hothers, List.head?_cons]
  dsimp only
  rw [hread]

/-- The label of a tagged text. -/
theorem core_eq (h : Tagged numeral text tagged) (hn : Writes numeral n) (hsign : '#' ∉ text) :
    Label.core tagged = Label.core text := by
  rw [Label.core_eq, Label.core_eq, Tag.withoutFinds_of_not_mem hsign]
  cases h with
  | @front gap hne hgap =>
      have htag := Tag.pieces_tag_append hn (head?_gap hne hgap text)
      have huntagged : Text.withoutFinds Tag.search ('#' :: (numeral ++ (gap ++ text))) =
          gap ++ text := by
        rw [Text.withoutFinds, htag, List.filterMap_cons_none rfl]
        exact Tag.withoutFinds_of_not_mem (not_mem_gap hsign hgap).1
      rw [huntagged, Label.ofUntagged_blanks_append hgap]
  | @back gap hne hgap =>
      have htag : Text.pieces Tag.search ('#' :: (numeral ++ [])) = [.found numeral] :=
        Tag.pieces_tag_append hn rfl
      rw [List.append_nil] at htag
      have huntagged : Text.withoutFinds Tag.search (text ++ (gap ++ '#' :: numeral)) =
          text ++ gap := by
        rw [← List.append_assoc,
          Text.withoutFinds_of_plain (Tag.pieces_append (not_mem_gap hsign hgap).2 _),
          Text.withoutFinds, htag]
        exact List.append_nil _
      rw [huntagged, Label.ofUntagged_append_blanks text hgap]

theorem isNeutral_sign : IsNeutral '#' := by decide +kernel

/-- A tag and blanks have no case. -/
theorem isNeutral_of_mem {gap : List Char} (hn : Writes numeral n)
    (hgap : ∀ c ∈ gap, isBlank c = true) :
    (∀ c ∈ '#' :: (numeral ++ gap), IsNeutral c) ∧ ∀ c ∈ gap ++ '#' :: numeral, IsNeutral c := by
  have hall : ∀ c, c = '#' ∨ c ∈ numeral ∨ c ∈ gap → IsNeutral c := by
    rintro c (rfl | hc | hc)
    · exact isNeutral_sign
    · exact Text.isNeutral_of_isDigit (hn.digits c hc)
    · exact Text.isNeutral_of_isBlank (hgap c hc)
  refine ⟨fun c hc => hall c ?_, fun c hc => hall c ?_⟩
  · rwa [List.mem_cons, List.mem_append] at hc
  · rw [List.mem_append, List.mem_cons, or_comm, or_assoc] at hc
    exact hc

/-- The category that the words of a tagged text point to. -/
theorem detect_eq (h : Tagged numeral text tagged) (hn : Writes numeral n) :
    Category.detect tagged = Category.detect text := by
  cases h with
  | front hne hgap =>
      rw [← List.append_assoc, ← List.cons_append,
        Category.detect_neutral_append (isNeutral_of_mem hn hgap).1]
  | back hne hgap => exact Category.detect_append_neutral text (isNeutral_of_mem hn hgap).2

/-- The lower case of a tagged text. -/
theorem lower (h : Tagged numeral text tagged) (hn : Writes numeral n) :
    Tagged numeral (lower text) (lower tagged) := by
  cases h with
  | @front gap hne hgap =>
      have hlower := Text.lower_neutral_append (isNeutral_of_mem hn hgap).1 text
      rw [List.cons_append, List.append_assoc, List.cons_append, List.append_assoc] at hlower
      rw [hlower]
      exact .front hne hgap
  | back hne hgap =>
      rw [Text.lower_append_neutral text (isNeutral_of_mem hn hgap).2]
      exact .back hne hgap

end Tagged

/-! ## Entries -/

/-- The entry with the category of this number, if there is one. -/
def Entry.retag (n : Nat) (e : Entry) : Entry :=
  { e with category := if 1 ≤ n ∧ n ≤ 7 then (Category.all.getD (n - 1) .other).name
    else e.category }

/-- A tag counts when it is the number of a category. -/
theorem Category.classify_some (text : List Char) (n : Nat) : (classify text (some n)).name =
    if 1 ≤ n ∧ n ≤ 7 then (all.getD (n - 1) .other).name else (detect text).name := by
  match n with
  | 0 => rfl
  | 1 | 2 | 3 | 4 | 5 | 6 | 7 => rfl
  | n + 8 =>
      rw [if_neg (by omega)]
      rfl

/-- The entry of a tagged text. -/
theorem Tagged.readEntry (h : Tagged numeral text tagged) (hn : Writes numeral n)
    (hsign : '#' ∉ text) (today : Date) : Command.readEntry tagged today =
      Reading.map (Entry.retag n) (Command.readEntry text today) := by
  have hamount : Amount.extract tagged = Amount.extract text :=
    congrArg Amount.first? (h.allIn_eq hn)
  have huntagged : Tag.extract text = .ok none := by
    rw [Tag.extract, Tag.finds_of_not_mem hsign]
    rfl
  have hlabel : Label.derive tagged = Label.derive text := by
    rw [Label.derive, h.core_eq hn hsign, Label.derive]
  unfold Command.readEntry
  rw [hamount, huntagged, h.extract_tag hn hsign, hlabel]
  cases Amount.extract text with
  | error fault => rfl
  | ok found =>
      cases found with
      | none => rfl
      | some amount =>
          dsimp only
          rw [Category.classify_some, h.detect_eq hn]
          rfl

end BukuKas
