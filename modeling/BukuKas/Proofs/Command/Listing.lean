import BukuKas.Proofs.Amount.Cut
import BukuKas.Proofs.Command.Segment

/-!
# The amounts of a list

A list is cut at its commas before its amounts are read, and each segment is trimmed.  Neither loses
an amount nor makes a new one: a comma that divides a list does not stand inside of a figure, since
it is no decimal comma, and no unit is looked for beyond it.  So the figures of a list are those of
its segments, in order, and its amount is the first that one of them names.

## Main results

* `Figure.allIn_segments` : the figures of a list are those of its segments.
* `segments_keep_amounts` : what a text is read as, in terms of the segments that name an amount.
-/

namespace BukuKas

open Calendar (Date)
open Number (Binary64)
open Text (isDigit isBlank lower trim)

namespace Command

variable {today : Date}

/-! ## Dividing a list -/

/-- A list is one segment, or its first segment ends at a comma that does not stand between two
digits. -/
theorem segmentsAfter_cases {before : Option Char} {text part : List Char}
    {parts : List (List Char)} (h : segmentsAfter before text = part :: parts) :
    (part = text ∧ parts = []) ∨
      ∃ rest, text = part ++ ',' :: rest ∧ segmentsAfter (some ',') rest = parts ∧
        ((part.getLast?.or before).any isDigit && rest.head?.any isDigit) = false := by
  induction text generalizing before part parts with
  | nil =>
      obtain ⟨rfl, rfl⟩ := List.cons.inj h
      exact .inl ⟨rfl, rfl⟩
  | cons c cs ih =>
      rw [segmentsAfter] at h
      split at h
      · rename_i hnil
        exact absurd hnil (segmentsAfter_ne_nil (some c) cs)
      · rename_i first others hparts
        split at h
        · rename_i hdivides
          obtain ⟨rfl, rfl⟩ := List.cons.inj h
          rw [Bool.and_eq_true, beq_iff_eq, Bool.not_eq_true'] at hdivides
          obtain ⟨rfl, hdigits⟩ := hdivides
          exact .inr ⟨cs, rfl, hparts, hdigits⟩
        · obtain ⟨rfl, rfl⟩ := List.cons.inj h
          rcases ih hparts with ⟨rfl, rfl⟩ | ⟨rest, rfl, hrest, hdigits⟩
          · exact .inl ⟨rfl, rfl⟩
          · refine .inr ⟨rest, rfl, hrest, ?_⟩
            rw [List.getLast?_cons]
            cases hlast : first.getLast? <;> rwa [hlast] at hdigits

/-- Behind a comma the division begins anew. -/
theorem segmentsAfter_comma (text : List Char) : segmentsAfter (some ',') text = segments text := by
  cases text <;> rfl

/-- A text without a comma is one segment. -/
theorem segments_of_not_mem {text : List Char} (h : ',' ∉ text) : segments text = [text] := by
  cases hparts : segments text with
  | nil => exact absurd hparts (segments_ne_nil text)
  | cons part parts =>
      rcases segmentsAfter_cases hparts with ⟨rfl, rfl⟩ | ⟨rest, rfl, -⟩
      · rfl
      · exact absurd (List.mem_append_right part List.mem_cons_self) h

end Command

/-- No figure goes on beyond a comma that divides a list. -/
theorem Figure.ends_comma {part rest : List Char}
    (h : (part.getLast?.any isDigit && rest.head?.any isDigit) = false) :
    Ends part (',' :: rest) where
  digit := Figure.isInert_comma.digit
  point hlast := by
    rw [hlast, Bool.true_and] at h
    cases rest with
    | nil => rfl
    | cons c cs => exact List.takeWhile_cons_of_neg (Bool.eq_false_iff.mp h)
  letter := by
    have hblank : isBlank ',' ≠ true := by decide
    have hletter : Text.isLooseLetter ',' = false := by decide
    rw [List.dropWhile_cons_of_neg hblank]
    exact hletter

/-- The figures of a list are those of its segments, in order. -/
theorem Figure.allIn_segments (text : List Char) :
    allIn text = (Command.segments text).flatMap allIn := by
  induction hlength : text.length using Nat.strongRecOn generalizing text with
  | ind length ih =>
      cases hparts : Command.segments text with
      | nil => exact absurd hparts (Command.segments_ne_nil text)
      | cons part parts =>
          rw [List.flatMap_cons]
          rcases Command.segmentsAfter_cases hparts with ⟨rfl, rfl⟩ | ⟨rest, rfl, hrest, hdigits⟩
          · exact (List.append_nil _).symm
          · rw [Option.or_none] at hdigits
            have hshorter : rest.length < length := by
              rw [← hlength, List.length_append, List.length_cons]
              omega
            rw [allIn_append (ends_comma hdigits) isInert_comma, ih _ hshorter rest rfl,
              ← Command.segmentsAfter_comma, hrest]

namespace Amount

/-- The first amount that one of the texts names, if one does. -/
def firstIn : List (List Char) → Except Fault (Option Binary64)
  | [] => .ok none
  | text :: texts => Reading.orElse (extract text) fun _ => firstIn texts

/-- The first amount among figures is that of the first ones, or of the others if those name
none. -/
theorem first?_append (fs gs : List Figure) :
    first? (fs ++ gs) = Reading.orElse (first? fs) fun _ => first? gs := by
  induction fs with
  | nil => rfl
  | cons f fs ih =>
      rw [List.cons_append, first?, first?]
      cases f.amount? with
      | error fault => rfl
      | ok found =>
          cases found with
          | none => exact ih
          | some amount => rfl

/-- The amount of a list is the first that one of its segments names. -/
theorem extract_eq_firstIn (text : List Char) :
    extract text = firstIn ((Command.segments text).map trim) := by
  have hparts (parts : List (List Char)) :
      first? (parts.flatMap Figure.allIn) = firstIn (parts.map trim) := by
    induction parts with
    | nil => rfl
    | cons part parts ih =>
        rw [List.flatMap_cons, first?_append, ih, List.map_cons, firstIn, extract_trim]
        rfl
  rw [extract, Figure.allIn_segments, hparts]

/-- Empty texts name no amount. -/
theorem firstIn_filter (texts : List (List Char)) :
    firstIn (texts.filter (!·.isEmpty)) = firstIn texts := by
  induction texts with
  | nil => rfl
  | cons text texts ih =>
      cases text with
      | nil => exact ih
      | cons c cs =>
          rw [List.filter_cons_of_pos (by rfl), firstIn, firstIn, ih]

end Amount

namespace Command

/-! ## Reading a list -/

/-- The first amount among texts is that of their first entry. -/
theorem firstIn_of_entriesOf {texts : List (List Char)} {es : List Entry}
    (h : entriesOf today texts = .ok es) :
    Amount.firstIn texts = .ok (es.head?.map Entry.amount) := by
  induction texts generalizing es with
  | nil =>
      injection h with h
      rw [← h]
      rfl
  | cons text texts ih =>
      rw [entriesOf] at h
      split at h
      · cases h
      · rename_i first hfirst
        split at h
        · cases h
        · rename_i others hothers
          injection h with h
          rw [Amount.firstIn, extract_of_readEntry hfirst, ← h]
          cases first with
          | none => exact ih hothers
          | some e => rfl

/-- No rule before those for expenses reads the text: it is neither a question nor a management
command. -/
structure Unclaimed (text : List Char) : Prop where
  question : question? (lower (trim text)) = none
  management : management? (trim text) (lower (trim text)) = .ok none

/-- What the rules for expenses make of a text that is left to them. -/
theorem Unclaimed.classify_eq {text : List Char} (h : Unclaimed text) :
    classify text today =
      match Reading.orElse (many? (trim text) today) fun _ => single? (trim text) today with
      | .error fault => .error fault
      | .ok (some intent) => .ok intent
      | .ok none => .ok (.unknown (String.ofList (trim text))) := by
  unfold classify rules
  dsimp only
  rw [h.question, h.management]
  rfl

/-- The texts that are read as the entries of a list. -/
def parts (text : List Char) : List (List Char) :=
  ((segments (trim text)).map trim).filter (!·.isEmpty)

/-- Two entries and more are a list. -/
theorem many?_of_entriesOf {text : List Char} {es : List Entry} (hcomma : ',' ∈ trim text)
    (hes : entriesOf today (parts text) = .ok es) :
    many? (trim text) today = .ok (if es.length < 2 then none else some (.addMany es)) := by
  have hcontains : (trim text).contains ',' = true := List.contains_iff_mem.mpr hcomma
  unfold parts at hes
  rw [many?, if_pos hcontains, hes]

/-- A text without a comma has the entry that is read from it, and no other. -/
theorem entriesOf_of_not_mem {text : List Char} {found : Option Entry} (hcomma : ',' ∉ trim text)
    (hread : readEntry (trim text) today = .ok found) :
    entriesOf today (parts text) = .ok found.toList := by
  unfold parts
  rw [segments_of_not_mem hcomma, List.map_singleton, Text.trim_trim]
  cases hraw : trim text with
  | nil =>
      rw [hraw] at hread
      injection hread with hread
      rw [← hread]
      rfl
  | cons c cs =>
      rw [hraw] at hread
      rw [List.filter_cons_of_pos (by rfl), List.filter_nil, entriesOf, hread]
      exact congrArg Except.ok (List.append_nil _)

/-- A text that is left to the rules for expenses and is no list is read as a whole. -/
theorem Unclaimed.exists_found {text : List Char} {intent : Intent} (hleft : Unclaimed text)
    (h : classify text today = .ok intent) (hmany : many? (trim text) today = .ok none) :
    ∃ found, readEntry (trim text) today = .ok found ∧
      intent = (found.map Intent.add).getD (.unknown (String.ofList (trim text))) := by
  rw [hleft.classify_eq, hmany, Reading.orElse_none, single?] at h
  cases hread : readEntry (trim text) today with
  | error fault =>
      rw [hread] at h
      cases h
  | ok found =>
      rw [hread] at h
      refine ⟨found, rfl, ?_⟩
      cases found <;> (injection h with h; exact h.symm)

/-- A text that is left to the rules for expenses is read segment by segment.  Fewer than two
entries are no list, and the text is read as a whole. -/
theorem Unclaimed.exists_entries {text : List Char} {intent : Intent} (hleft : Unclaimed text)
    (h : classify text today = .ok intent) :
    ∃ es, entriesOf today (parts text) = .ok es ∧
      ((2 ≤ es.length ∧ intent = .addMany es) ∨
        (es.length < 2 ∧ ∃ found, readEntry (trim text) today = .ok found ∧
          intent = (found.map Intent.add).getD (.unknown (String.ofList (trim text))))) := by
  by_cases hcomma : ',' ∈ trim text
  · cases hes : entriesOf today (parts text) with
    | error fault =>
        have hcontains : (trim text).contains ',' = true := List.contains_iff_mem.mpr hcomma
        unfold parts at hes
        rw [hleft.classify_eq, many?, if_pos hcontains, hes] at h
        cases h
    | ok es =>
        have hmany := many?_of_entriesOf hcomma hes
        refine ⟨es, rfl, ?_⟩
        by_cases hlength : es.length < 2
        · rw [if_pos hlength] at hmany
          exact .inr ⟨hlength, hleft.exists_found h hmany⟩
        · rw [if_neg hlength] at hmany
          rw [hleft.classify_eq, hmany, Reading.orElse_some] at h
          injection h with h
          exact .inl ⟨by omega, h.symm⟩
  · obtain ⟨found, hread, hintent⟩ := hleft.exists_found h (if_neg (by simpa using hcomma))
    refine ⟨found.toList, entriesOf_of_not_mem hcomma hread, .inr ⟨?_, found, hread, hintent⟩⟩
    cases found <;> simp

/-- What a text is read as, in terms of the amounts that its segments name. -/
structure ReadBySegments (text : List Char) (today : Date) (intent : Intent) : Prop where
  unknown_iff : (∃ said, intent = .unknown said) ↔ Amount.extract text = .ok none
  said : ∀ said, intent = .unknown said → said = String.ofList (trim text)
  addMany_iff : (∃ es, intent = .addMany es) ↔ 2 ≤ (pricedSegments (trim text)).length
  items : ∀ es, intent = .addMany es →
    List.Forall₂ (fun segment e => readEntry (trim segment) today = .ok (some e))
      (pricedSegments (trim text)) es ∧
    Amount.extract text = .ok (es.head?.map Entry.amount)
  one : Amount.extract text ≠ .ok none → (pricedSegments (trim text)).length < 2 →
    ∃ segment e, pricedSegments (trim text) = [segment] ∧ intent = .add e ∧
      Amount.extract (trim segment) = .ok (some e.amount) ∧
      Amount.extract text = .ok (some e.amount)

/-- The entries of a list are read from its segments that name an amount. -/
theorem forall₂_of_parts {text : List Char} {es : List Entry}
    (hes : entriesOf today (parts text) = .ok es) :
    List.Forall₂ (fun segment e => readEntry (trim segment) today = .ok (some e))
      (pricedSegments (trim text)) es := forall₂_of_entriesOf hes

/-- The amount of a text is that of the first entry of a segment. -/
theorem extract_of_entriesOf {text : List Char} {es : List Entry}
    (hes : entriesOf today (parts text) = .ok es) :
    Amount.extract text = .ok (es.head?.map Entry.amount) := by
  rw [← Amount.extract_trim, Amount.extract_eq_firstIn, ← Amount.firstIn_filter]
  exact firstIn_of_entriesOf hes

/-- Two segments that name an amount, and what is read from them. -/
theorem ReadBySegments.of_many {text : List Char} {es : List Entry}
    (hes : entriesOf today (parts text) = .ok es) (hmany : 2 ≤ es.length) :
    ReadBySegments text today (.addMany es) := by
  have hpriced := forall₂_of_parts hes
  have hlength := hpriced.length_eq
  have hamount := extract_of_entriesOf hes
  refine {
    unknown_iff := ⟨nofun, fun hnone => ?_⟩
    said := nofun
    addMany_iff := ⟨fun _ => by omega, fun _ => ⟨es, rfl⟩⟩
    items := fun others hothers => ?_
    one := fun _ hfew => by omega }
  · cases es with
    | nil => exact absurd hmany (by decide)
    | cons e es => cases hamount.symm.trans hnone
  · injection hothers with hothers
    exact hothers ▸ ⟨hpriced, hamount⟩

/-- The only segment that names an amount has the amount of the whole text. -/
theorem exists_segment {text : List Char} {es : List Entry} {e : Entry}
    (hes : entriesOf today (parts text) = .ok es) (hfew : es.length < 2)
    (hwhole : Amount.extract text = .ok (some e.amount)) :
    ∃ segment, pricedSegments (trim text) = [segment] ∧
      Amount.extract (trim segment) = .ok (some e.amount) := by
  have hpriced := forall₂_of_parts hes
  have hamount := hwhole.symm.trans (extract_of_entriesOf hes)
  generalize pricedSegments (trim text) = priced at hpriced
  cases hpriced with
  | nil => cases hamount
  | @cons segment first segments others hfirst hothers =>
      cases hothers with
      | cons _ _ => exact absurd hfew (by simp)
      | nil =>
          have hsame : some e.amount = some first.amount := Except.ok.inj hamount
          exact ⟨segment, rfl, hsame ▸ extract_of_readEntry hfirst⟩

/-- At most one segment that names an amount, and what is read from the whole text. -/
theorem ReadBySegments.of_single {text : List Char} {es : List Entry} {found : Option Entry}
    (hes : entriesOf today (parts text) = .ok es) (hfew : es.length < 2)
    (hread : readEntry (trim text) today = .ok found) : ReadBySegments text today
      ((found.map Intent.add).getD (.unknown (String.ofList (trim text)))) := by
  have hlength := (forall₂_of_parts hes).length_eq
  have hlist : ¬ 2 ≤ (pricedSegments (trim text)).length := by omega
  have hwhole : Amount.extract text = .ok (found.map Entry.amount) := by
    rw [← Amount.extract_trim]
    exact extract_of_readEntry hread
  cases found with
  | none =>
      exact {
        unknown_iff := ⟨fun _ => hwhole, fun _ => ⟨_, rfl⟩⟩
        said := fun said hsaid => (Intent.unknown.inj hsaid).symm
        addMany_iff := ⟨nofun, fun hmany => absurd hmany hlist⟩
        items := nofun
        one := fun hsome => absurd hwhole hsome }
  | some e =>
      obtain ⟨segment, hpriced, hamount⟩ := exists_segment hes hfew hwhole
      exact {
        unknown_iff := ⟨nofun, fun hnone => nomatch hwhole.symm.trans hnone⟩
        said := nofun
        addMany_iff := ⟨nofun, fun hmany => absurd hmany hlist⟩
        items := nofun
        one := fun _ _ => ⟨segment, e, hpriced, rfl, hamount, hwhole⟩ }

/-- A text that is left to the rules for expenses is unknown if it names no amount, a list if two of
its segments name one, and otherwise the one expense whose amount its only such segment names. -/
theorem Unclaimed.readBySegments {text : List Char} {intent : Intent} (hleft : Unclaimed text)
    (h : classify text today = .ok intent) : ReadBySegments text today intent := by
  obtain ⟨es, hes, ⟨hmany, rfl⟩ | ⟨hfew, found, hread, rfl⟩⟩ := hleft.exists_entries h
  · exact .of_many hes hmany
  · exact .of_single hes hfew hread

/-- Dividing a list keeps its amounts.  The amount of a text is the first that one of its trimmed
segments names, and the segments joined by commas are the text.  So what a text is read as, when no
earlier rule reads it, can be told from the segments that name an amount. -/
theorem segments_keep_amounts (text : List Char) :
    (Amount.extract text = Amount.firstIn ((segments text).map trim) ∧
      [','].intercalate (segments text) = text) ∧
    ∀ today intent, classify text today = .ok intent → Unclaimed text →
      ReadBySegments text today intent :=
  ⟨⟨Amount.extract_eq_firstIn text, join_segments text⟩,
    fun _ _ h hleft => hleft.readBySegments h⟩

/-- A coffee and a bread with a decimal comma in its price, and a quantity between them. -/
theorem segments_keep_amounts_of_coffee_and_bread :
    let text := " kopi 20k , 2 gelas,roti 1,5k".toList
    let today : Date := ⟨2026, 10, 19, by decide⟩
    ∃ es, classify text today = .ok (.addMany es) ∧ es.map Entry.amount = [20000, 1500] ∧
      ReadBySegments text today (.addMany es) := by
  intro text today
  let es : List Entry := [⟨"Kopi", 20000, "Makanan & Minuman", today⟩,
    ⟨"Roti", 1500, "Makanan & Minuman", today⟩]
  have hread : classify text today = .ok (.addMany es) := by decide +kernel
  have hleft : Unclaimed text := ⟨by decide +kernel, by decide +kernel⟩
  exact ⟨es, hread, rfl, (segments_keep_amounts text).2 today _ hread hleft⟩

end Command

end BukuKas
