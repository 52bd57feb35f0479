import BukuKas.Proofs.Command.Edge
import BukuKas.Proofs.Command.Reading
import BukuKas.Proofs.Text.Small

/-!
# Messages in another case

A message means the same in capital and in small letters.  Some rules read the message, some read
its lower case, and spellings are matched with and without regard to case; so each of these ways of
reading is compared for a text and its small form.  What the sender named keeps the case in which it
was written, and nothing else tells the two readings apart.

## Main results

* `Figure.ignoresCase`, `Tag.ignoresCase`, `Label.ignoresCase` : the searches of an expense.
* `readEntry_small` : the entry of a text in small letters.
* `classify_small` : what a message in small letters asks for.
* `classify_of_sameLetters` : messages that differ only in case ask for the same.
-/

namespace BukuKas

open Calendar (Date)
open Text (isDigit isBlank isBoundary isWordChar isLooseLetter dropLoose? lower small trim)

/-! ## Numerals -/

namespace Number

theorem natOfDigits_small (cs : List Char) : natOfDigits (small cs) = natOfDigits cs := by
  rw [natOfDigits, small, List.foldl_map, natOfDigits]
  simp only [Text.digitValue_toLower]

theorem readNat_small (cs : List Char) : readNat (small cs) = readNat cs := by
  rw [readNat, Text.length_small, natOfDigits_small, readNat]

theorem readDecimal_small (whole fraction : List Char) :
    readDecimal (small whole) (small fraction) = readDecimal whole fraction := by
  rw [readDecimal, ← Text.small_append, natOfDigits_small, Text.length_small, readDecimal]

theorem digitsBetweenLines?_small (cs : List Char) :
    digitsBetweenLines? (small cs) = (digitsBetweenLines? cs).map small := by
  have hsingle (c : Char) : digitsBetweenLines? (small [c]) =
      (digitsBetweenLines? [c]).map small := by
    rw [Text.small_cons, Text.small_nil, digitsBetweenLines?, digitsBetweenLines?,
      Text.isDigit_toLower]
    split <;> rfl
  induction cs using digitsBetweenLines?.induct with
  | case1 => rfl
  | case2 c => exact hsingle c
  | case3 c => exact hsingle c
  | case4 c d cs hdigit =>
      have hsmall : (!isDigit c.toLower) = true := by rwa [Text.isDigit_toLower]
      rw [Text.small_cons, Text.small_cons, digitsBetweenLines?, digitsBetweenLines?, if_pos hsmall,
        if_pos hdigit]
      rfl
  | case5 c d cs hdigit hline ih =>
      have hsmall : (d.toLower == '_') = true := by rwa [Text.beq_toLower (by decide)]
      rw [Text.small_cons, Text.small_cons, digitsBetweenLines?, digitsBetweenLines?,
        Text.isDigit_toLower, if_neg hdigit, if_neg hdigit, if_pos hsmall, if_pos hline, ih,
        Option.map_map, Option.map_map]
      rfl
  | case6 c d cs hdigit hline ih =>
      have hsmall : ¬(d.toLower == '_') = true := by rwa [Text.beq_toLower (by decide)]
      rw [Text.small_cons] at ih
      rw [Text.small_cons, Text.small_cons, digitsBetweenLines?, digitsBetweenLines?,
        Text.isDigit_toLower, if_neg hdigit, if_neg hdigit, if_neg hsmall, if_neg hline, ih,
        Option.map_map, Option.map_map]
      rfl

theorem unsigned?_small (cs : List Char) : unsigned? (small cs) = unsigned? cs := by
  rw [unsigned?, digitsBetweenLines?_small, Option.bind_map, unsigned?]
  simp only [Function.comp_def, readNat_small]

theorem readInt?_small (cs : List Char) : readInt? (small cs) = readInt? cs := by
  cases cs with
  | nil => rfl
  | cons c cs =>
      rw [Text.small_cons]
      by_cases hminus : c = '-'
      · subst hminus
        rw [readInt?_minus, ← unsigned?_small, ← readInt?_minus]
        rfl
      by_cases hplus : c = '+'
      · subst hplus
        rw [readInt?_plus, ← unsigned?_small, ← readInt?_plus]
        rfl
      rw [readInt?_of_ne (Text.toLower_ne (by decide) hminus) (Text.toLower_ne (by decide) hplus),
        ← Text.small_cons, unsigned?_small, readInt?_of_ne hminus hplus]

end Number

/-! ## Figures -/

namespace Figure

/-- The figure in small letters. -/
def small (f : Figure) : Figure := ⟨Text.small f.whole, Text.small f.fraction, Text.small f.suffix⟩

theorem value_small (f : Figure) : f.small.value = f.value :=
  Number.readDecimal_small f.whole f.fraction

theorem amount?_small (f : Figure) : f.small.amount? = f.amount? := by
  have hempty : f.small.suffix.isEmpty = f.suffix.isEmpty := Text.isEmpty_small f.suffix
  have hlower : lower f.small.suffix = lower f.suffix := Text.lower_small f.suffix
  rw [amount?, hempty, hlower, value_small, amount?]

theorem fractionAt_small (cs : List Char) :
    fractionAt (Text.small cs) = Text.small (fractionAt cs) := by
  cases cs with
  | nil => rfl
  | cons c cs =>
      rw [Text.small_cons, fractionAt, fractionAt, Text.beq_toLower (by decide),
        Text.beq_toLower (by decide), Text.takeWhile_small Text.isDigit_toLower]
      split <;> rfl

theorem fractionLength_small (cs : List Char) :
    fractionLength (Text.small cs) = fractionLength cs := by
  rw [fractionLength, fractionAt_small, Text.isEmpty_small, Text.length_small, fractionLength]

theorem standsAt_small (cs : List Char) : standsAt (Text.small cs) = standsAt cs := by
  funext u
  unfold standsAt
  rw [Text.dropLoose?_small]
  cases dropLoose? u.spelling cs with
  | none => rfl
  | some rest =>
      have hhead := Text.any_toLower Text.isLooseLetter_toLower rest.head?
      rw [← Text.head?_small] at hhead
      exact congrArg (!·) hhead

theorem suffixAt_small (cs : List Char) : suffixAt (Text.small cs) = Text.small (suffixAt cs) := by
  rw [suffixAt_eq, suffixAt_eq, standsAt_small]
  cases MoneyUnit.all.find? (standsAt cs) with
  | none => rfl
  | some u => exact Text.take_small u.spelling.length cs

theorem unitAt_small (cs : List Char) : unitAt (Text.small cs) = Text.small (unitAt cs) := by
  rw [unitAt, Text.dropWhile_small Text.isBlank_toLower, suffixAt_small, unitAt]

theorem unitLength_small (cs : List Char) : unitLength (Text.small cs) = unitLength cs := by
  rw [unitLength, unitAt_small, Text.isEmpty_small, Text.takeWhile_small Text.isBlank_toLower,
    Text.length_small, Text.length_small, unitLength]

theorem scan_small (cs : List Char) : scan (Text.small cs) = ((scan cs).1.small, (scan cs).2) := by
  rw [scan_eq, scan_eq, Text.takeWhile_small Text.isDigit_toLower,
    Text.dropWhile_small Text.isDigit_toLower, fractionAt_small, fractionLength_small,
    Text.drop_small, unitAt_small, unitLength_small, Text.length_small]
  rfl

theorem ignoresCase : search.IgnoresCase small := by
  intro before cs
  cases cs with
  | nil => rfl
  | cons c cs =>
      have hbefore : (before.map Char.toLower).any (fun b => b == '#' || isDigit b) =
          before.any (fun b => b == '#' || isDigit b) :=
        Text.any_toLower (fun b => by rw [Text.beq_toLower (by decide), Text.isDigit_toLower])
          before
      rw [Text.small_cons, search, search, hbefore, Text.isDigit_toLower,
        ← Text.small_cons, scan_small]
      split <;> rfl

end Figure

/-- The amount of a text does not depend on case. -/
theorem Amount.extract_small (cs : List Char) : extract (small cs) = extract cs := by
  have hfirst (figures : List Figure) : first? (figures.map Figure.small) = first? figures := by
    induction figures with
    | nil => rfl
    | cons f fs ih => rw [List.map_cons, first?, first?, Figure.amount?_small, ih]
  have hall : Figure.allIn (small cs) = (Figure.allIn cs).map Figure.small :=
    Figure.ignoresCase.finds_small cs
  rw [extract, hall, hfirst, extract]

/-! ## Tags -/

namespace Tag

theorem ignoresCase : search.IgnoresCase small := by
  intro before cs
  cases cs with
  | nil => rfl
  | cons c cs =>
      by_cases hsign : c = '#'
      · subst hsign
        have hsmall : search (before.map Char.toLower) (small ('#' :: cs)) =
            search (before.map Char.toLower) ('#' :: small cs) := rfl
        rw [hsmall, search_sign, search_sign, Text.takeWhile_small Text.isDigit_toLower,
          Text.isEmpty_small, Text.length_small]
        split <;> rfl
      · rw [Text.small_cons, search_of_ne (Text.toLower_ne (by decide) hsign), search_of_ne hsign]
        rfl

theorem extract_small (cs : List Char) : extract (small cs) = extract cs := by
  rw [extract, ignoresCase.finds_small, List.head?_map, extract]
  cases (Text.finds search cs).head? with
  | none => rfl
  | some digits =>
      dsimp only [Option.map_some]
      rw [Number.readNat_small]

end Tag

/-! ## Labels -/

namespace Label

theorem isBoundary_toLower (before after : Option Char) :
    isBoundary (before.map Char.toLower) (after.map Char.toLower) = isBoundary before after := by
  rw [isBoundary, Text.any_toLower Text.isWordChar_toLower,
    Text.any_toLower Text.isWordChar_toLower, isBoundary]

theorem standsAt_small (cs : List Char) : standsAt (small cs) = standsAt cs := by
  funext filler
  unfold standsAt
  rw [Text.dropLoose?_small]
  cases dropLoose? filler.toList cs with
  | none => rfl
  | some rest =>
      dsimp only [Option.map_some]
      rw [Text.take_small, Text.head?_small, small, List.getLast?_map, isBoundary_toLower]

theorem ignoresCase : fillerSearch.IgnoresCase id := by
  intro before cs
  rw [fillerSearch, fillerSearch, fillerAt?_eq, fillerAt?_eq, Text.head?_small, isBoundary_toLower,
    standsAt_small]
  exact (congrFun Option.map_id _).symm

theorem closeMarks_small (cs : List Char) : closeMarks (small cs) = small (closeMarks cs) := by
  have hmark (c : Char) : isMark c.toLower = isMark c := Text.apply_toLower (by decide) c
  induction cs with
  | nil => rfl
  | cons c cs ih =>
      rw [Text.small_cons, closeMarks, closeMarks, Text.beq_toLower (by decide), Text.head?_small,
        Text.any_toLower hmark, ih]
      split <;> rfl

theorem core_small (cs : List Char) : core (small cs) = small (core cs) := by
  have hedge (c : Char) : isEdge c.toLower = isEdge c := Text.apply_toLower (by decide) c
  have hsign (c : Char) : (c.toLower != '#') = (c != '#') :=
    congrArg (!·) (Text.beq_toLower (by decide) c)
  have hspaced (words : List (List Char)) : [' '].intercalate (words.map small) =
      small ([' '].intercalate words) :=
    Text.intercalate_small [' '] words
  unfold core
  dsimp only
  rw [Tag.ignoresCase.withoutFinds_small, Figure.ignoresCase.withoutFinds_small,
    ignoresCase.withoutFinds_small, Text.filter_small hsign, Text.words_small, hspaced,
    closeMarks_small, Text.stripEnds_small hedge]

/-- The label of a text is the same up to case. -/
theorem derive_small (cs : List Char) : (derive (small cs)).toLower = (derive cs).toLower := by
  unfold derive
  rw [core_small]
  cases core cs with
  | nil => rfl
  | cons c label =>
      rw [Text.small_cons]
      dsimp only
      rw [← Text.small_cons, Text.toLower_ofList, Text.toLower_ofList, Text.small_capitalize_small]

end Label

/-! ## Entries -/

/-- The words of a text point to the same category in any case. -/
theorem Category.detect_small (cs : List Char) : detect (small cs) = detect cs := by
  rw [detect, Text.lower_small, detect]

/-- The entry with its item in small letters. -/
def Entry.small (e : Entry) : Entry := { e with item := e.item.toLower }

namespace Command

variable {today : Date}

theorem readEntry_small (cs : List Char) : Reading.map Entry.small (readEntry (small cs) today) =
    Reading.map Entry.small (readEntry cs today) := by
  unfold readEntry Category.classify
  rw [Amount.extract_small, Tag.extract_small, Category.detect_small]
  cases Amount.extract cs with
  | error fault => rfl
  | ok found =>
      cases found with
      | none => rfl
      | some amount =>
          cases Tag.extract cs with
          | error fault => rfl
          | ok tag =>
              have hlabel := Label.derive_small cs
              simp only [Reading.map, Entry.small, hlabel]

/-! ## Lists -/

theorem segmentsAfter_small (before : Option Char) (cs : List Char) :
    segmentsAfter (before.map Char.toLower) (small cs) = (segmentsAfter before cs).map small := by
  induction cs generalizing before with
  | nil => rfl
  | cons c cs ih =>
      have hrest := ih (some c)
      rw [Option.map_some] at hrest
      rw [Text.small_cons, segmentsAfter, segmentsAfter, hrest, Text.beq_toLower (by decide),
        Text.head?_small, Text.any_toLower Text.isDigit_toLower,
        Text.any_toLower Text.isDigit_toLower]
      cases segmentsAfter (some c) cs with
      | nil => rfl
      | cons part parts =>
          rw [List.map_cons]
          dsimp only
          split <;> rfl

theorem segments_small (cs : List Char) : segments (small cs) = (segments cs).map small :=
  segmentsAfter_small none cs

/-- The entries of a list, changed one by one. -/
theorem map_entriesOf_cons (f : Entry → Entry) (text : List Char) (texts : List (List Char)) :
    (entriesOf today (text :: texts)).map (List.map f) =
      match Reading.map f (readEntry text today) with
      | .error fault => .error fault
      | .ok first =>
        match (entriesOf today texts).map (List.map f) with
        | .error fault => .error fault
        | .ok others => .ok (first.toList ++ others) := by
  rw [entriesOf]
  cases readEntry text today with
  | error fault => rfl
  | ok first =>
      cases entriesOf today texts with
      | error fault => cases first <;> rfl
      | ok others => cases first <;> rfl

theorem entriesOf_small (texts : List (List Char)) :
    (entriesOf today (texts.map small)).map (List.map Entry.small) =
      (entriesOf today texts).map (List.map Entry.small) := by
  induction texts with
  | nil => rfl
  | cons text texts ih =>
      rw [List.map_cons, map_entriesOf_cons, map_entriesOf_cons, readEntry_small, ih]

end Command

/-! ## Rules -/

/-- The intent with what the sender named in small letters: the items, a reminder, or a text that is
not understood. -/
def Intent.small : Intent → Intent
  | .add entry => .add entry.small
  | .addMany entries => .addMany (entries.map Entry.small)
  | .addReminder name day => .addReminder name.toLower day
  | .unknown text => .unknown text.toLower
  | intent => intent

namespace Command

variable {today : Date}

theorem reminder?_small (argument : List Char) :
    (reminder? (small argument)).map Intent.small = (reminder? argument).map Intent.small := by
  unfold reminder?
  rw [Text.splitLastWord?_small]
  cases Text.splitLastWord? argument with
  | none => rfl
  | some parts =>
      dsimp only [Option.map_some, Prod.map]
      rw [Number.readInt?_small, Text.trim_small, Text.isEmpty_small]
      cases Number.readInt? parts.2 with
      | none => rfl
      | some day =>
          dsimp only
          split
          · rfl
          · exact congrArg (fun name => some (Intent.addReminder name day))
              (Text.toLower_ofList_small (trim parts.1))

theorem addReminder?_small (raw : List Char) :
    (addReminder? (small raw)).map Intent.small = (addReminder? raw).map Intent.small := by
  have hbang : ((small raw).head? == some '!') = (raw.head? == some '!') := by
    cases raw with
    | nil => rfl
    | cons c cs => exact Text.beq_toLower (by decide) c
  have hline (cs : List Char) : (small cs).contains '\n' = cs.contains '\n' :=
    Text.contains_small (Text.beq_toLower (by decide)) cs
  unfold addReminder?
  rw [Text.drop_small, Text.dropLoose?_small, hbang]
  cases dropLoose? ['i', 'n', 'g', 'a', 't'] (raw.drop 1) with
  | none => rfl
  | some rest =>
      cases rest with
      | nil => rfl
      | cons c cs =>
          dsimp only [Option.map_some, Text.small_cons]
          rw [Text.isBlank_toLower, Text.dropWhile_small Text.isBlank_toLower,
            Text.isEmpty_small, hline]
          split
          · exact reminder?_small _
          · rfl

theorem management?_small (raw lowered : List Char) :
    Reading.map Intent.small (management? (small raw) lowered) =
      Reading.map Intent.small (management? raw lowered) := by
  unfold management?
  split
  · rfl
  · split
    · rfl
    · have hlast : Reading.map Intent.small (.ok ((alert? lowered).or (addReminder? (small raw)))) =
          Reading.map Intent.small (.ok ((alert? lowered).or (addReminder? raw))) := by
        rw [Reading.map_found, Reading.map_found, Option.map_or, Option.map_or, addReminder?_small]
      simp only [Reading.map_orElse, hlast]

/-- The list of expenses that a message records, its entries in small letters. -/
theorem map_many? (raw : List Char) : Reading.map Intent.small (many? raw today) =
    if raw.contains ',' then
      match (entriesOf today (segments raw)).map (List.map Entry.small) with
      | .error fault => .error fault
      | .ok entries => .ok (if entries.length < 2 then none else some (.addMany entries))
    else .ok none := by
  rw [many?, entriesOf_parts]
  split
  · cases entriesOf today (segments raw) with
    | error fault => rfl
    | ok entries =>
        dsimp only [Except.map]
        rw [List.length_map, Reading.map_found]
        split <;> rfl
  · rfl

theorem many?_small (raw : List Char) :
    Reading.map Intent.small (many? (small raw) today) =
      Reading.map Intent.small (many? raw today) := by
  rw [map_many?, map_many?, Text.contains_small (Text.beq_toLower (by decide)), segments_small,
    entriesOf_small]

theorem single?_small (raw : List Char) :
    Reading.map Intent.small (single? (small raw) today) =
      Reading.map Intent.small (single? raw today) := by
  have hadd (read : Reading Entry) : Reading.map Intent.small (Reading.map .add read) =
      Reading.map .add (Reading.map Entry.small read) := by
    rw [Reading.map_map, Reading.map_map]
    rfl
  rw [single?, single?, hadd, hadd, readEntry_small]

theorem rules_small (raw : List Char) :
    Reading.map Intent.small (rules (small raw) today) =
      Reading.map Intent.small (rules raw today) := by
  unfold rules
  dsimp only
  simp only [Reading.map_orElse, Text.lower_small, management?_small, many?_small, single?_small]

/-- What a message asks for, in small letters. -/
theorem map_classify (text : List Char) : (classify text today).map Intent.small =
    match Reading.map Intent.small (rules (trim text) today) with
    | .error fault => .error fault
    | .ok (some intent) => .ok intent
    | .ok none => .ok (.unknown (String.ofList (trim text)).toLower) := by
  unfold classify
  dsimp only
  cases rules (trim text) today with
  | error fault => rfl
  | ok found => cases found <;> rfl

/-- A message in small letters asks for the same. -/
theorem classify_small (text : List Char) :
    (classify (small text) today).map Intent.small = (classify text today).map Intent.small := by
  rw [map_classify, map_classify, Text.trim_small, rules_small, Text.toLower_ofList_small]

/-- Messages that differ only in the case of ASCII letters ask for the same, up to the case of those
letters in what the sender named; or neither can be read, and by the same fault. -/
theorem classify_of_sameLetters {text other : List Char}
    (h : text.map Char.toLower = other.map Char.toLower) (today : Date) :
    (classify text today).map Intent.small = (classify other today).map Intent.small := by
  calc (classify text today).map Intent.small = (classify (small text) today).map Intent.small :=
        (classify_small text).symm
    _ = (classify (small other) today).map Intent.small := by rw [small, h, small]
    _ = (classify other today).map Intent.small := classify_small other

/-- Two expenses, one with a unit in large letters and one with a tag. -/
theorem classify_of_sameLetters_of_list :
    let today : Date := ⟨2026, 10, 19, by decide⟩
    let text := "Beli KOPI 25RB, ojol 15 rb #4".toList
    let other := "bELI kopi 25rb, OJOL 15 Rb #4".toList
    let answer : Except Fault Intent := .ok (.addMany [⟨"kopi", 25000, "Makanan & Minuman", today⟩,
      ⟨"ojol", 15000, "Lifestyle", today⟩])
    text.map Char.toLower = other.map Char.toLower ∧
      (classify text today).map Intent.small = answer ∧
      (classify other today).map Intent.small = answer := by
  intro today text other answer
  have hletters : text.map Char.toLower = other.map Char.toLower := by decide +kernel
  have htext : (classify text today).map Intent.small = answer := by decide +kernel
  exact ⟨hletters, htext, by rw [← classify_of_sameLetters hletters, htext]⟩

end Command

end BukuKas
