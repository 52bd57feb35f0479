import BukuKas.Proofs.Command.Marker
import BukuKas.Proofs.Command.Tag

/-!
# Tags at either end of an expense

The sender of an expense may choose its category by a tag, before the expense or behind it, and is
understood as without the tag but for the category.  A text that holds a number sign is neither a
question nor a command of one word, nor a command with an argument, whatever it begins with; and it
asks no question that the text without the tag does not ask.

The tagged text may hold commas and still be one expense, so its segments are compared one by one.
The tag stands at the end of one of them, and blanks divide it from the rest.

## Main results

* `question?_of_tagged`, `management?_of_tagged` : a tagged text is left to the rules for expenses.
* `segments_of_tagged` : the segments of a tagged text.
* `classify_of_either_end` : what a tagged expense is read as.
-/

namespace BukuKas

open Calendar (Date)
open Number (Writes)
open Text (isDigit isBlank lower trim)

variable {numeral text tagged : List Char} {n : Nat}

/-! ## Questions and commands -/

namespace Command

/-- A word without a number sign is not a text with one. -/
theorem ne_of_mem_sign {word : List Char} (hword : '#' ∉ word) (h : '#' ∈ text) :
    (word == text) = false := by
  apply beq_false_of_ne
  rintro rfl
  exact hword h

theorem isOneOf_of_mem_sign {words : List String} (hwords : ∀ word ∈ words, '#' ∉ word.toList)
    (h : '#' ∈ text) : isOneOf words text = false := by
  unfold isOneOf
  rw [List.any_eq_false]
  intro word hword
  exact Bool.eq_false_iff.mp (ne_of_mem_sign (hwords word hword) h)

/-- A number sign behind a command word stands in its argument. -/
theorem mem_argument {word : String} {argument : List Char} (hword : '#' ∉ word.toList)
    (h : '#' ∈ text) (hargument : argument? word text = some argument) : '#' ∈ argument := by
  unfold argument? at hargument
  split at hargument
  · rename_i hprefix
    obtain ⟨rest, rfl⟩ := List.isPrefixOf_iff_prefix.mp hprefix
    rw [List.drop_left] at hargument
    have hrest : '#' ∈ rest := (List.mem_append.mp h).resolve_left hword
    cases rest with
    | nil => exact nomatch hrest
    | cons c cs =>
        dsimp only at hargument
        split at hargument
        · rename_i hblank
          injection hargument with hargument
          subst hargument
          have hne : '#' ≠ c := by
            rintro rfl
            exact absurd hblank (by decide)
          have hcs : '#' ∈ cs.takeWhile isBlank ++ cs.dropWhile isBlank := by
            rw [List.takeWhile_append_dropWhile]
            exact (List.mem_cons.mp hrest).resolve_left hne
          refine (List.mem_append.mp hcs).resolve_left fun hmem => ?_
          exact absurd (List.all_eq_true.mp List.all_takeWhile _ hmem) (by decide)
        · exact nomatch hargument
  · exact nomatch hargument

theorem index?_of_mem_sign {word : String} (hword : '#' ∉ word.toList) (h : '#' ∈ text) :
    index? word text = .ok none := by
  unfold index?
  split
  · rename_i d ds hargument
    have hmem := mem_argument hword h hargument
    rw [if_neg]
    intro hall
    exact absurd (List.all_eq_true.mp hall _ hmem) (by decide)
  · rfl

theorem alert?_of_mem_sign (h : '#' ∈ text) : alert? text = none := by
  unfold alert?
  split
  · rename_i argument hargument
    have hmem := mem_argument (by decide) h hargument
    rw [isOneOf_of_mem_sign (by decide) hmem, isOneOf_of_mem_sign (by decide) hmem]
    rfl
  · rfl

end Command

/-- A numeral in which lines may stand holds no other characters. -/
theorem Number.digitsBetweenLines?_of_mem {c : Char} (hdigit : isDigit c = false) (hline : c ≠ '_')
    {cs : List Char} (h : c ∈ cs) : digitsBetweenLines? cs = none := by
  fun_induction digitsBetweenLines? cs with
  | case1 => rfl
  | case2 d hd =>
      rw [List.mem_singleton.mp h] at hdigit
      exact nomatch hd.symm.trans hdigit
  | case3 => rfl
  | case4 => rfl
  | case5 first second cs hfirst hsecond ih =>
      rw [Bool.not_eq_true', Bool.not_eq_false] at hfirst
      rcases List.mem_cons.mp h with rfl | h
      · exact nomatch hfirst.symm.trans hdigit
      rcases List.mem_cons.mp h with rfl | h
      · exact absurd (eq_of_beq hsecond) hline
      rw [ih h, Option.map_none]
  | case6 first second cs hfirst hsecond ih =>
      rw [Bool.not_eq_true', Bool.not_eq_false] at hfirst
      rcases List.mem_cons.mp h with rfl | h
      · exact nomatch hfirst.symm.trans hdigit
      rw [ih h, Option.map_none]

/-- What holds a number sign is no whole number. -/
theorem Number.readInt?_of_mem_sign {cs : List Char} (h : '#' ∈ cs) : readInt? cs = none := by
  have hnone {ds : List Char} (hmem : '#' ∈ ds) : unsigned? ds = none := by
    rw [unsigned?, digitsBetweenLines?_of_mem (by decide) (by decide) hmem]
    rfl
  cases cs with
  | nil => rfl
  | cons c cs =>
      by_cases hminus : c = '-'
      · subst hminus
        rw [readInt?_minus, hnone ((List.mem_cons.mp h).resolve_left (by decide)), Option.map_none]
      by_cases hplus : c = '+'
      · subst hplus
        rw [readInt?_plus, hnone ((List.mem_cons.mp h).resolve_left (by decide)), Option.map_none]
      rw [readInt?_of_ne hminus hplus, hnone h, Option.map_none]

namespace Command

/-- A tag is no day, so what ends with one sets no reminder. -/
theorem reminder?_of_suffix {word argument : List Char} (hsign : '#' ∈ word)
    (hword : ∀ c ∈ word, isBlank c = false) (h : argument <:+ word ∨ word <:+ argument) :
    reminder? argument = none := by
  unfold reminder?
  rcases h with hpart | ⟨front, rfl⟩
  · rw [Text.splitLastWord?_of_word fun c hc => hword c (hpart.subset hc)]
  · split
    · rfl
    · rename_i before last hsplit
      rw [Number.readInt?_of_mem_sign ((Text.suffix_of_splitLastWord? hword hsplit).subset hsign)]

theorem addReminder?_of_suffix {word : List Char} (hsign : '#' ∈ word)
    (hword : ∀ c ∈ word, isBlank c = false) (h : word <:+ text) : addReminder? text = none := by
  unfold addReminder?
  split
  · rename_i c cs hdrop
    have hargument : cs.dropWhile isBlank <:+ text :=
      (List.dropWhile_suffix isBlank).trans <| (List.suffix_cons c cs).trans <|
        (Text.suffix_of_dropLoose? hdrop).trans (List.drop_suffix 1 text)
    dsimp only
    rw [reminder?_of_suffix hsign hword (List.suffix_or_suffix_of_suffix hargument h), ite_self]
  · rfl

/-- A tag does not matter for words that begin and end with small letters. -/
theorem mentions_of_tagged {words : List String}
    (hwords : (∀ word ∈ words, word.toList.head?.any Char.isLower = true) ∧
      ∀ word ∈ words, word.toList.getLast?.any Char.isLower = true)
    (h : Tagged numeral text tagged) (hn : Writes numeral n) :
    mentions words tagged = mentions words text := by
  cases h with
  | front hne hgap =>
      rw [← List.append_assoc, ← List.cons_append]
      exact Text.any_contains_neutral_append hwords.1 (Tagged.isNeutral_of_mem hn hgap).1 text
  | back hne hgap =>
      exact Text.any_contains_append_neutral hwords.2 text (Tagged.isNeutral_of_mem hn hgap).2

/-- A tag makes no question of a text. -/
theorem question?_of_tagged (h : Tagged numeral text tagged) (hn : Writes numeral n)
    (hnone : question? text = none) : question? tagged = none := by
  have hsign := h.mem_sign
  unfold question? remaining? spending? today? categories? help? at hnone ⊢
  rw [mentions_of_tagged (by decide) h hn, mentions_of_tagged (by decide) h hn,
    mentions_of_tagged (by decide) h hn, mentions_of_tagged (by decide) h hn,
    isOneOf_of_mem_sign (by decide) hsign, isOneOf_of_mem_sign (by decide) hsign,
    isOneOf_of_mem_sign (by decide) hsign]
  simp only [Option.or_eq_none_iff, ite_eq_right_iff, reduceCtorEq, imp_false,
    Bool.or_eq_true, not_or]
    at hnone ⊢
  obtain ⟨hremaining, hspending, ⟨-, htoday⟩, -⟩ := hnone
  exact ⟨hremaining, hspending, ⟨not_false, htoday⟩, not_false, not_false⟩

/-- A tag makes no management command of a text, whatever the text begins with. -/
theorem management?_of_tagged (h : Tagged numeral text tagged) (hn : Writes numeral n) :
    management? tagged (lower tagged) = .ok none := by
  have hsign := (h.lower hn).mem_sign
  have hcommands : wordCommands.find? (fun command => command.1.toList == lower tagged) = none := by
    have hwords : ∀ command ∈ wordCommands, '#' ∉ command.1.toList := by decide
    rw [List.find?_eq_none]
    intro command hcommand
    exact Bool.eq_false_iff.mp (ne_of_mem_sign (hwords command hcommand) hsign)
  unfold management?
  split
  · rfl
  · rename_i hhead
    have hback : '#' :: numeral <:+ tagged := by
      cases h with
      | front hne hgap =>
          rw [Text.lower, Text.lowerFrom_cons_neutral Tagged.isNeutral_sign] at hhead
          exact absurd rfl hhead
      | @back gap hne hgap =>
          rw [← List.append_assoc]
          exact List.suffix_append _ _
    have hword : ∀ c ∈ '#' :: numeral, isBlank c = false :=
      List.forall_mem_cons.mpr ⟨by decide, fun d hd => Text.isBlank_of_isDigit (hn.digits d hd)⟩
    rw [hcommands]
    dsimp only
    rw [index?_of_mem_sign (by decide) hsign, index?_of_mem_sign (by decide) hsign,
      index?_of_mem_sign (by decide) hsign, alert?_of_mem_sign hsign,
      addReminder?_of_suffix List.mem_cons_self hword hback]
    rfl

/-! ## Segments -/

/-- Where no digit stands before it, a comma at the beginning divides a list. -/
theorem segmentsAfter_of_not_digit {before : Option Char} (h : before.any isDigit = false)
    (text : List Char) : segmentsAfter before text = segments text := by
  cases text with
  | nil => rfl
  | cons c cs => rw [segments, segmentsAfter, segmentsAfter, h, Option.any_none]

/-- What holds no comma is part of the first segment. -/
theorem segmentsAfter_append {front part : List Char} {parts : List (List Char)}
    {before : Option Char}
    (hcomma : ',' ∉ front) (h : segmentsAfter (front.getLast?.or before) text = part :: parts) :
    segmentsAfter before (front ++ text) = (front ++ part) :: parts := by
  induction front generalizing before with
  | nil => exact h
  | cons c cs ih =>
      rw [List.mem_cons, not_or] at hcomma
      have hlast : (c :: cs).getLast?.or before = cs.getLast?.or (some c) := by
        rw [List.getLast?_cons]
        cases cs.getLast? <;> rfl
      have hdivides : ¬ (c == ',' && !(before.any isDigit && (cs ++ text).head?.any isDigit)) =
          true := by
        rw [beq_false_of_ne (Ne.symm hcomma.1), Bool.false_and]
        exact Bool.false_ne_true
      rw [hlast] at h
      rw [List.cons_append, segmentsAfter, ih hcomma.2 h]
      dsimp only
      rw [if_neg hdivides]
      rfl

/-- What holds no comma, and goes on with no digit, is part of the last segment. -/
theorem exists_last_segment {back : List Char} (hcomma : ',' ∉ back)
    (hhead : back.head?.any isDigit = false) (text : List Char) (before : Option Char) :
    ∃ init last, segmentsAfter before text = init ++ [last] ∧
      segmentsAfter before (text ++ back) = init ++ [last ++ back] := by
  induction text generalizing before with
  | nil =>
      refine ⟨[], [], rfl, ?_⟩
      have hback : segmentsAfter before (back ++ []) = [back ++ []] :=
        segmentsAfter_append hcomma rfl
      rwa [List.append_nil] at hback
  | cons c cs ih =>
      obtain ⟨init, last, hinit, hback⟩ := ih (some c)
      have hsame : (cs ++ back).head?.any isDigit = cs.head?.any isDigit := by
        cases cs with
        | nil => exact hhead
        | cons d ds => rfl
      rw [List.cons_append, segmentsAfter, segmentsAfter, hinit, hback, hsame]
      cases init with
      | nil =>
          dsimp only [List.nil_append]
          split
          · exact ⟨[[]], last, rfl, rfl⟩
          · exact ⟨[], c :: last, rfl, rfl⟩
      | cons part parts =>
          dsimp only [List.cons_append]
          split
          · exact ⟨[] :: part :: parts, last, rfl, rfl⟩
          · exact ⟨(c :: part) :: parts, last, rfl, rfl⟩

/-- A segment holds characters of the text. -/
theorem subset_of_mem_segmentsAfter {before : Option Char} {part : List Char}
    (h : part ∈ segmentsAfter before text) : part ⊆ text := by
  induction text generalizing before part with
  | nil => rw [List.mem_singleton.mp h]; exact List.Subset.refl []
  | cons c cs ih =>
      rw [segmentsAfter] at h
      split at h
      · rename_i hnil
        exact absurd hnil (segmentsAfter_ne_nil (some c) cs)
      · rename_i first others hparts
        have hfirst : first ⊆ cs := ih (hparts ▸ List.mem_cons_self)
        split at h
        · rcases List.mem_cons.mp h with rfl | h
          · exact List.nil_subset _
          · exact List.subset_cons_of_subset c (ih (hparts ▸ h))
        · rcases List.mem_cons.mp h with rfl | h
          · exact List.cons_subset_cons c hfirst
          · exact List.subset_cons_of_subset c (ih (hparts ▸ List.mem_cons_of_mem first h))

/-- The segments of a text and those of a tagged one are the same, but one that is tagged. -/
def TaggedPart (numeral part other : List Char) : Prop :=
  other = part ∨ ('#' ∉ part ∧ Tagged numeral part other)

/-- A tag stands in one segment of a tagged text, at its end, and the others are those of the
text. -/
theorem segments_of_tagged (h : Tagged numeral text tagged) (hn : Writes numeral n)
    (hsign : '#' ∉ text) :
    List.Forall₂ (TaggedPart numeral) (segments text) (segments tagged) := by
  have hself (parts : List (List Char)) : List.Forall₂ (TaggedPart numeral) parts parts :=
    List.forall₂_same.mpr fun _ _ => .inl rfl
  have hpart {part : List Char} (hmem : part ∈ segments text) : '#' ∉ part := fun hin =>
    hsign (subset_of_mem_segmentsAfter hmem hin)
  have hdigits : ',' ∉ numeral := fun hmem => absurd (hn.digits _ hmem) (by decide)
  have hblanks {gap : List Char} (hgap : ∀ c ∈ gap, isBlank c = true) : ',' ∉ gap :=
    fun hmem => absurd (hgap _ hmem) (by decide)
  cases h with
  | @front gap hne hgap =>
      obtain ⟨part, parts, hparts⟩ := List.exists_cons_of_ne_nil (segments_ne_nil text)
      have hlast : (('#' :: (numeral ++ gap)).getLast?.or none).any isDigit = false := by
        rw [Option.or_none, ← List.cons_append, List.getLast?_append_of_ne_nil _ hne,
          List.getLast?_eq_some_getLast hne]
        exact (Figure.isInert_of_isBlank (hgap _ (List.getLast_mem hne))).digit
      have hfirst : segmentsAfter none ('#' :: (numeral ++ gap) ++ text) =
          ('#' :: (numeral ++ gap) ++ part) :: parts :=
        segmentsAfter_append (by simp [hdigits, hblanks hgap])
          ((segmentsAfter_of_not_digit hlast text).trans hparts)
      rw [List.cons_append, List.append_assoc, List.cons_append, List.append_assoc] at hfirst
      have hsegment : '#' ∉ part := hpart (hparts ▸ List.mem_cons_self)
      rw [hparts, segments, hfirst]
      exact .cons (.inr ⟨hsegment, .front hne hgap⟩) (hself parts)
  | @back gap hne hgap =>
      have hcomma : ',' ∉ gap ++ '#' :: numeral := by simp [hdigits, hblanks hgap]
      obtain ⟨init, last, hinit, hback⟩ :=
        exists_last_segment hcomma (Tagged.head?_gap hne hgap _) text none
      have hmem : last ∈ segments text := by
        rw [segments, hinit]
        simp
      have hsegment : '#' ∉ last := hpart hmem
      rw [segments, segments, hinit, hback]
      exact List.rel_append (hself init) (.cons (.inr ⟨hsegment, .back hne hgap⟩) .nil)

/-! ## Reading a tagged text -/

variable {today : Date}

/-- As many entries are read from texts whose entries differ. -/
theorem exists_entriesOf {parts others : List (List Char)} {es : List Entry}
    (h : List.Forall₂ (fun part other => ∃ change, readEntry other today =
      Reading.map change (readEntry part today)) parts others)
    (hes : entriesOf today parts = .ok es) :
    ∃ fs, entriesOf today others = .ok fs ∧ fs.length = es.length := by
  induction h generalizing es with
  | nil => exact ⟨es, hes, rfl⟩
  | @cons part other parts others hfirst hrest ih =>
      obtain ⟨change, hchange⟩ := hfirst
      rw [entriesOf] at hes ⊢
      cases hread : readEntry part today with
      | error fault =>
          rw [hread] at hes
          cases hes
      | ok found =>
          cases hothers : entriesOf today parts with
          | error fault =>
              rw [hread, hothers] at hes
              cases hes
          | ok later =>
              rw [hread, hothers] at hes
              injection hes with hes
              obtain ⟨fs, hfs, hlength⟩ := ih hothers
              rw [hchange, hread, hfs, ← hes]
              cases found with
              | none => exact ⟨fs, rfl, hlength⟩
              | some e => exact ⟨change e :: fs, rfl, congrArg (· + 1) hlength⟩

/-- A tag makes no list of a text that is none. -/
theorem many?_of_tagged (h : Tagged numeral (trim text) (trim tagged)) (hn : Writes numeral n)
    (hsign : '#' ∉ trim text) {es : List Entry} (hes : entriesOf today (parts text) = .ok es)
    (hfew : es.length < 2) : many? (trim tagged) today = .ok none := by
  have hread : List.Forall₂ (fun part other => ∃ change, readEntry other today =
      Reading.map change (readEntry part today)) (segments (trim text))
      (segments (trim tagged)) := by
    refine (segments_of_tagged h hn hsign).imp fun part other hpart => ?_
    rcases hpart with rfl | ⟨hsegment, htagged⟩
    · exact ⟨id, (Reading.map_id _).symm⟩
    · exact ⟨Entry.retag n, htagged.readEntry hn hsegment today⟩
  rw [parts, entriesOf_parts] at hes
  obtain ⟨fs, hfs, hlength⟩ := exists_entriesOf hread hes
  by_cases hcomma : ',' ∈ trim tagged
  · rw [← entriesOf_parts] at hfs
    rw [many?_of_entriesOf hcomma hfs, if_pos (by omega)]
  · exact if_neg (by simpa using hcomma)

/-- An expense that is tagged is the same expense with the category of its tag. -/
theorem classify_of_tagged (h : Tagged numeral (trim text) (trim tagged)) (hn : Writes numeral n)
    (hsign : '#' ∉ trim text) {e : Entry} (hread : classify text today = .ok (.add e)) :
    classify tagged today = .ok (.add (e.retag n)) := by
  have hleft : Unclaimed text := by
    by_contra hclaimed
    exact nomatch records_of_claimed hread hclaimed
  have htagged : Unclaimed tagged :=
    ⟨question?_of_tagged (h.lower hn) hn hleft.question, management?_of_tagged h hn⟩
  obtain ⟨es, hes, ⟨-, hmany⟩ | ⟨hfew, -⟩⟩ := hleft.exists_entries hread
  · exact nomatch hmany
  · rw [htagged.classify_eq, many?_of_tagged h hn hsign hes hfew, Reading.orElse_none, single?,
      h.readEntry hn hsign, readEntry_of_classify hread]
    rfl

end Command

/-- Trimming keeps a tagged text tagged. -/
theorem Tagged.trimmed (h : Tagged numeral text tagged) (hn : Writes numeral n)
    (hne : trim text ≠ []) :
    Tagged numeral (trim text) (trim tagged) := by
  obtain ⟨front, back, htext, hfront, hback⟩ := Text.exists_blanks text
  obtain ⟨hhead, hlast⟩ := Text.ends_trim text
  generalize trim text = inner at htext hhead hlast hne ⊢
  subst htext
  have hblanks {xs ys : List Char} (hxs : ∀ c ∈ xs, isBlank c = true) 
      (hys : ∀ c ∈ ys, isBlank c = true) :
      ∀ c ∈ xs ++ ys, isBlank c = true := fun c hc => (List.mem_append.mp hc).elim (hxs c) (hys c)
  cases h with
  | @front gap hgapne hgap =>
      have hends : trim ('#' :: (numeral ++ (gap ++ front ++ inner))) =
          '#' :: (numeral ++ (gap ++ front ++ inner)) := by
        refine Text.trim_of_ends (fun c hc => ?_) fun c hc => hlast c ?_
        · rw [← Option.some.inj hc]
          decide
        · rwa [← List.append_assoc, ← List.cons_append, List.getLast?_append_of_ne_nil _ hne] at hc
      have hsplit : '#' :: (numeral ++ (gap ++ (front ++ (inner ++ back)))) =
          '#' :: (numeral ++ (gap ++ front ++ inner)) ++ back := by simp
      rw [hsplit, Text.trim_append_blanks _ hback, hends]
      exact .front (List.append_ne_nil_of_left_ne_nil hgapne front) (hblanks hgap hfront)
  | @back gap hgapne hgap =>
      have hends : trim (inner ++ (back ++ gap ++ '#' :: numeral)) =
          inner ++ (back ++ gap ++ '#' :: numeral) := by
        refine Text.trim_of_ends (fun c hc => hhead c ?_) fun c hc => ?_
        · rwa [List.head?_append_of_ne_nil _ hne] at hc
        · rw [← List.append_assoc, ← List.singleton_append, ← List.append_assoc,
            List.getLast?_append_of_ne_nil _ hn.nonempty, List.getLast?_eq_some_getLast hn.nonempty]
            at hc
          rw [← Option.some.inj hc]
          exact Text.isBlank_of_isDigit (hn.digits _ (List.getLast_mem hn.nonempty))
      have hsplit : front ++ (inner ++ back) ++ (gap ++ '#' :: numeral) =
          front ++ (inner ++ (back ++ gap ++ '#' :: numeral)) := by simp
      rw [hsplit, Text.trim_blanks_append hfront, hends]
      exact .back (List.append_ne_nil_of_right_ne_nil back hgapne) (hblanks hback hgap)

/-- A tag counts from either end of an expense, and touches nothing but its category.  A text
without a number sign that is read as an expense is read as the same expense with a tag before it or
behind it; the category is that of the tag's number, if there is one. -/
theorem Command.classify_of_either_end {today : Date} {e : Entry} (hsign : '#' ∉ text)
    (hread : classify text today = .ok (.add e)) (hn : Writes numeral n) :
    classify ('#' :: numeral ++ ' ' :: text) today = .ok (.add (e.retag n)) ∧
      classify (text ++ ' ' :: '#' :: numeral) today = .ok (.add (e.retag n)) := by
  have hspace : ∀ c ∈ [' '], isBlank c = true := List.all_eq_true.mp rfl
  have hne : trim text ≠ [] := by
    intro hnil
    have hentry := readEntry_of_classify hread
    rw [hnil] at hentry
    exact nomatch hentry
  have hinner : '#' ∉ trim text := fun hmem => hsign ((Text.trim_infix text).subset hmem)
  have hfront : Tagged numeral text ('#' :: numeral ++ ' ' :: text) :=
    .front (List.cons_ne_nil _ _) hspace
  have hback : Tagged numeral text (text ++ ' ' :: '#' :: numeral) :=
    .back (List.cons_ne_nil _ _) hspace
  exact ⟨classify_of_tagged (hfront.trimmed hn hne) hn hinner hread,
    classify_of_tagged (hback.trimmed hn hne) hn hinner hread⟩

/-- A misused command with a comma names an amount, and is an expense of another category with a
tag. -/
theorem Command.classify_of_either_end_of_reminder :
    let today : Date := ⟨2026, 10, 19, by decide⟩
    '#' ∉ " !ingat kopi, 25000".toList ∧
      classify " !ingat kopi, 25000".toList today =
        .ok (.add ⟨"!ingat kopi", 25000, "Makanan & Minuman", today⟩) ∧
      classify "#04  !ingat kopi, 25000".toList today =
        .ok (.add ⟨"!ingat kopi", 25000, "Lifestyle", today⟩) ∧
      classify " !ingat kopi, 25000 #04".toList today =
        .ok (.add ⟨"!ingat kopi", 25000, "Lifestyle", today⟩) := by
  intro today
  have hsign : '#' ∉ " !ingat kopi, 25000".toList := by decide +kernel
  have hread : classify " !ingat kopi, 25000".toList today =
      .ok (.add ⟨"!ingat kopi", 25000, "Makanan & Minuman", today⟩) := by decide +kernel
  have hn : Writes ['0', '4'] 4 := ⟨by decide, List.all_eq_true.mp rfl, by decide, by decide⟩
  have hfrontText : "#04  !ingat kopi, 25000".toList =
      '#' :: ['0', '4'] ++ ' ' :: " !ingat kopi, 25000".toList := by decide +kernel
  have hbackText : " !ingat kopi, 25000 #04".toList =
      " !ingat kopi, 25000".toList ++ ' ' :: '#' :: ['0', '4'] := by decide +kernel
  have hretag : Entry.retag 4 ⟨"!ingat kopi", 25000, "Makanan & Minuman", today⟩ =
      ⟨"!ingat kopi", 25000, "Lifestyle", today⟩ := by decide +kernel
  obtain ⟨hfront, hback⟩ := classify_of_either_end hsign hread hn
  rw [hretag] at hfront hback
  exact ⟨hsign, hread, by rw [hfrontText, hfront], by rw [hbackText, hback]⟩

end BukuKas
