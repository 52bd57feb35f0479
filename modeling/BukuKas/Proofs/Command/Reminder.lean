import BukuKas.Proofs.Amount.Spelled
import BukuKas.Proofs.Command.Numbered
import BukuKas.Proofs.Command.Reading
import BukuKas.Proofs.Text.Edge
import BukuKas.Proofs.Text.Small

/-!
# Setting a reminder

The command that sets a reminder is its word, a name, and the numeral of a day.  The name may be any
text on one line, numbers, commas, tags and other commands among it: the day is the last word, and
what stands before it is the name as it was written.  The command is read after the questions, so it
is one only when it has no word of a question; every other rule before it asks for another word at
the head of the text.

## Main results

* `Number.readInt?_of_writes` : a numeral is read as its number.
* `reminder?_append` : the name and the day of a reminder are taken apart where they were joined.
* `classify_setting` : a command is read as the reminder that it was written for, and a reminder
  that is read has a name and a day of a month.
-/

namespace BukuKas

open Calendar (Date)
open Text (isDigit isBlank trim lower small IsNeutral)

/-- A text does not begin with what differs from its beginning. -/
theorem Text.isPrefixOf_of_clashes {cs ds : List Char} (h : clashes cs ds = true)
    (rest : List Char) :
    cs.isPrefixOf (ds ++ rest) = false := by
  induction cs generalizing ds with
  | nil => exact nomatch h
  | cons c cs ih =>
      cases ds with
      | nil => exact nomatch h
      | cons d ds =>
          rw [clashes, List.zip_cons_cons, List.any_cons, Bool.or_eq_true] at h
          rw [List.cons_append, List.isPrefixOf, Bool.and_eq_false_iff]
          exact h.imp (fun hne => beq_false_of_ne (bne_iff_ne.mp hne)) ih

namespace Number

variable {ds : List Char} {n : Nat}

theorem digitsBetweenLines?_of_digits (hne : ds ≠ []) (hds : ∀ d ∈ ds, isDigit d = true) :
    digitsBetweenLines? ds = some ds := by
  fun_induction digitsBetweenLines? ds with
  | case1 => exact absurd rfl hne
  | case2 d hd => rfl
  | case3 d hd => exact absurd (hds d List.mem_cons_self) hd
  | case4 c d cs hc =>
      rw [hds c List.mem_cons_self] at hc
      exact nomatch hc
  | case5 c d cs hc hline =>
      have hd := hds d (by simp)
      rw [eq_of_beq hline] at hd
      exact absurd hd (by decide)
  | case6 c d cs hc hline ih =>
      rw [ih (List.cons_ne_nil d cs) fun e he => hds e (List.mem_cons_of_mem c he)]
      rfl

/-- A numeral is read as its number, also where a sign might stand. -/
theorem readInt?_of_writes (hn : Writes ds n) : readInt? ds = some (n : Int) := by
  have hunsigned : unsigned? ds = some n := by
    rw [unsigned?, digitsBetweenLines?_of_digits hn.nonempty hn.digits, Option.bind_some, readNat,
      if_neg (Nat.not_lt.mpr hn.short), hn.value]
    rfl
  obtain ⟨d, rest, rfl⟩ := List.exists_cons_of_ne_nil hn.nonempty
  have hne {sign : Char} (hsign : isDigit sign = false) : d ≠ sign := by
    rintro rfl
    exact nomatch (hn.digits d List.mem_cons_self).symm.trans hsign
  rw [readInt?_of_ne (hne (by decide)) (hne (by decide)), hunsigned]
  rfl

end Number

namespace Command

open Number (Writes)

variable {word name numeral text : List Char} {day : Nat}

/-! ## Names -/

/-- The name of a reminder: it is not empty, and no white space stands at its ends. -/
structure IsName (name : List Char) : Prop where
  nonempty : name ≠ []
  head : ∀ c ∈ name.head?, isBlank c = false
  last : ∀ c ∈ name.getLast?, isBlank c = false

theorem IsName.trim_eq (h : IsName name) : trim name = name := Text.trim_of_ends h.head h.last

theorem isName_trim {cs : List Char} (h : trim cs ≠ []) : IsName (trim cs) :=
  ⟨h, (Text.ends_trim cs).1, (Text.ends_trim cs).2⟩

/-- The day is the last word of the argument, and the name what stands before it. -/
theorem reminder?_append (hname : IsName name) (hn : Writes numeral day)
    (hday : 1 ≤ day ∧ day ≤ 31) :
    reminder? (name ++ ' ' :: numeral) = some (.addReminder (String.ofList name) day) := by
  have hsplit : Text.splitLastWord? (name ++ ' ' :: numeral) = some (name, numeral) :=
    Text.splitLastWord?_append hname.nonempty hname.last (by decide) hn.nonempty fun d hd =>
      Text.isBlank_of_isDigit (hn.digits d hd)
  have hempty : (trim name).isEmpty = false := by
    rw [hname.trim_eq]
    exact List.isEmpty_eq_false_iff.mpr hname.nonempty
  unfold reminder?
  rw [hsplit]
  dsimp only
  rw [Number.readInt?_of_writes hn]
  dsimp only
  have hlast : (lastReminderDay : Int) = 31 := rfl
  have hgood : ¬ (false || decide ((day : Int) < 1) || decide ((lastReminderDay : Int) < day)) =
      true := by
    rw [hlast]
    simp
    omega
  rw [hempty, if_neg hgood, hname.trim_eq]

/-! ## The command -/

/-- The command that sets a reminder: its word, a name and a numeral, with a space between them. -/
def setting (word name numeral : List Char) : List Char := word ++ ' ' :: (name ++ ' ' :: numeral)

/-- No word of a question stands in the text, unless it asks for what is left and the text says that
it records something. -/
structure AsksNothing (text : List Char) : Prop where
  spending : mentions ["total", "pengeluaran"] (lower text) = false
  today : mentions ["hari ini"] (lower text) = false
  remaining : mentions ["sisa", "budget"] (lower text) = true →
    mentions ["catat", "tambah"] (lower text) = true

theorem AsksNothing.remaining? (h : AsksNothing text) : remaining? (lower text) = none := by
  unfold Command.remaining?
  by_cases hasks : mentions ["sisa", "budget"] (lower text) = true
  · rw [hasks, h.remaining hasks]
    rfl
  · rw [Bool.eq_false_iff.mpr hasks]
    rfl

theorem exists_letters (hword : small word = "!ingat".toList) :
    ∃ letters, word = '!' :: letters ∧ letters.map Char.toLower = ['i', 'n', 'g', 'a', 't'] := by
  have hspelled : "!ingat".toList = '!' :: ['i', 'n', 'g', 'a', 't'] := by decide +kernel
  cases word with
  | nil => exact nomatch hword.trans hspelled
  | cons c letters =>
      rw [hspelled, Text.small_cons, List.cons.injEq] at hword
      have hmark : c = '!' := by
        by_contra hne
        exact Text.toLower_ne (by decide) hne hword.1
      exact ⟨letters, by rw [hmark], hword.2⟩

/-- In lower case the command begins with its word and ends with the numeral. -/
theorem lower_setting (hword : small word = "!ingat".toList) (hn : Writes numeral day) :
    lower (setting word name numeral) = "!ingat".toList ++
      (' ' :: (lower name ++ [' ']) ++ numeral) := by
  have hspace : IsNeutral ' ' := Text.isNeutral_of_isBlank (by decide)
  have hmarker : lower word = "!ingat".toList := by
    rw [← Text.lower_small, hword]
    decide +kernel
  have hnumeral : lower numeral = numeral :=
    Text.lowerFrom_of_isLow (fun d hd => Text.isLow_of_isDigit (hn.digits d hd)) []
  rw [setting, lower, Text.lowerFrom_append_neutral hspace, lower,
    Text.lowerFrom_append_neutral hspace, hnumeral, ← lower, ← lower, hmarker]
  simp

/-- The argument of the command is the name with the numeral, whatever the case of its word. -/
theorem addReminder?_setting (hword : small word = "!ingat".toList) (hname : IsName name)
    (hline : '\n' ∉ name) (hn : Writes numeral day) (hday : 1 ≤ day ∧ day ≤ 31) :
    addReminder? (setting word name numeral) = some (.addReminder (String.ofList name) day) := by
  obtain ⟨letters, rfl, hletters⟩ := exists_letters hword
  have hargument : (name ++ ' ' :: numeral).dropWhile isBlank = name ++ ' ' :: numeral := by
    apply Text.dropWhile_of_head?
    rw [List.head?_append_of_ne_nil name hname.nonempty]
    exact hname.head
  have hlines : (name ++ ' ' :: numeral).contains '\n' = false := by
    have hdigits : '\n' ∉ numeral := fun hmem => absurd (hn.digits '\n' hmem) (by decide)
    simp [hline, hdigits]
  unfold addReminder?
  rw [setting, List.cons_append, List.drop_one, List.tail_cons,
    Text.dropLoose?_append_of_map hletters]
  dsimp only
  rw [hargument, hlines, if_pos (by simp [hname.nonempty, isBlank]), reminder?_append hname hn hday]

/-- No other management command begins as this one does. -/
theorem management?_setting (hword : small word = "!ingat".toList) (hname : IsName name)
    (hline : '\n' ∉ name) (hn : Writes numeral day) (hday : 1 ≤ day ∧ day ≤ 31) :
    management? (setting word name numeral) (lower (setting word name numeral)) =
      .ok (some (.addReminder (String.ofList name) day)) := by
  have hhead : (lower (setting word name numeral)).head? = some '!' := by
    rw [lower_setting hword hn]
    rfl
  have hcommands :
      (wordCommands.find? fun command => command.1.toList == lower (setting word name numeral)) =
      none := by
    rw [lower_setting hword hn, ← List.append_assoc]
    exact find?_wordCommands_append_digits _ hn
  have hother {other : String} (hclash : Text.clashes other.toList "!ingat".toList = true) :
      other.toList.isPrefixOf (lower (setting word name numeral)) = false := by
    rw [lower_setting hword hn]
    exact Text.isPrefixOf_of_clashes hclash _
  have halert : alert? (lower (setting word name numeral)) = none := by
    rw [alert?, argument?_of_other (hother (by decide +kernel))]
  unfold management?
  rw [hhead, if_neg (by decide), hcommands]
  dsimp only
  rw [index?_of_other (hother (by decide +kernel)), index?_of_other (hother (by decide +kernel)),
    index?_of_other (hother (by decide +kernel)), halert, Option.none_or,
    addReminder?_setting hword hname hline hn hday]
  rfl

theorem classify_of_setting (hword : small word = "!ingat".toList) (hname : IsName name)
    (hline : '\n' ∉ name) (hn : Writes numeral day) (hday : 1 ≤ day ∧ day ≤ 31)
    (hasks : AsksNothing (setting word name numeral)) (today : Date) :
    classify (setting word name numeral) today = .ok (.addReminder (String.ofList name) day) := by
  have htrim : trim (setting word name numeral) = setting word name numeral := by
    obtain ⟨letters, rfl, -⟩ := exists_letters hword
    have hends : setting ('!' :: letters) name numeral =
        ('!' :: (letters ++ ' ' :: (name ++ [' ']))) ++ numeral := by
      simp [setting]
    rw [hends]
    exact trim_append_digits List.head?_cons (by decide) hn
  have hquestion : question? (lower (setting word name numeral)) = none := by
    have hremaining := hasks.remaining?
    have hspending := hasks.spending
    have htoday := hasks.today
    rw [lower_setting hword hn, ← List.append_assoc] at hremaining hspending htoday ⊢
    exact question?_of_digits hn hremaining hspending htoday
  unfold classify rules
  dsimp only
  rw [htrim, hquestion, Reading.orElse_none, management?_setting hword hname hline hn hday]
  rfl

/-- A reminder that is read has a name and a day of a month, whatever the text. -/
theorem isName_of_classify {today : Date} {name : String} {day : Int}
    (h : classify text today = .ok (.addReminder name day)) :
    1 ≤ day ∧ day ≤ 31 ∧ IsName name.toList := by
  rcases rule_of_classify h with hquestion | hmanagement | hmany | hsingle | hunknown
  · exact absurd (mem_of_question? hquestion) (by simp)
  · rcases management?_eq_some hmanagement with hword | ⟨n, hn⟩ | ⟨n, hn⟩ | halert | hreminder
    · exact absurd hword (by simp [wordCommands])
    · exact nomatch hn
    · exact nomatch hn
    · obtain ⟨enabled, henabled⟩ := alert?_eq_some halert
      exact nomatch henabled
    · obtain ⟨front, found, hintent, hne, hfrom, hto⟩ := addReminder?_eq_some hreminder
      obtain ⟨rfl, rfl⟩ := Intent.addReminder.inj hintent
      rw [String.toList_ofList]
      exact ⟨hfrom, hto, isName_trim hne⟩
  · obtain ⟨entries, hentries, -⟩ := entriesOf_of_many? hmany
    exact nomatch hentries
  · obtain ⟨e, -, he⟩ := Reading.map_eq_some hsingle
    exact nomatch he
  · exact nomatch hunknown

/-- A command that asks nothing is read as the reminder that it was written for, its name unchanged;
and a reminder that is read, from whatever text, could have been written so. -/
theorem classify_setting :
    (∀ (word name : List Char) (day : Nat) (today : Date),
      small word = "!ingat".toList → IsName name →
      '\n' ∉ name → 1 ≤ day → day ≤ 31 → AsksNothing (setting word name (toString day).toList) →
      classify (setting word name (toString day).toList) today =
        .ok (.addReminder (String.ofList name) day)) ∧
    ∀ (text : List Char) (today : Date) (name : String) (day : Int),
      classify text today = .ok (.addReminder name day) → 1 ≤ day ∧ day ≤ 31 ∧
      IsName name.toList := by
  constructor
  · intro word name day today hword hname hline hfrom hto hasks
    have hlast : 31 < Number.tenTo Number.maxDigits := by decide +kernel
    have hn : Writes (toString day).toList day := Number.writes_toString (by omega)
    exact classify_of_setting hword hname hline hn ⟨hfrom, hto⟩ hasks today
  · intro text today name day h
    exact isName_of_classify h

/-- A name may hold spaces, commas, amounts and tags. -/
theorem classify_setting_of_name :
    let name := "Bayar  Kos 500k, #3 lalu 2".toList
    let today : Date := ⟨2026, 10, 19, by decide⟩
    (small "!InGaT".toList = "!ingat".toList ∧ IsName name ∧ '\n' ∉ name ∧
      AsksNothing (setting "!InGaT".toList name (toString 31).toList)) ∧
    classify (setting "!InGaT".toList name (toString 31).toList) today =
      .ok (.addReminder (String.ofList name) 31) ∧
    1 ≤ (31 : Int) ∧ (31 : Int) ≤ 31 ∧ IsName (String.ofList name).toList := by
  intro name today
  have hword : small "!InGaT".toList = "!ingat".toList := by decide +kernel
  have htrim : trim name = name := by decide +kernel
  have hname : IsName name := htrim ▸ isName_trim (by decide +kernel)
  have hline : '\n' ∉ name := by decide +kernel
  have hasks : AsksNothing (setting "!InGaT".toList name (toString 31).toList) :=
    ⟨by decide +kernel, by decide +kernel, by decide +kernel⟩
  have hread :=
    classify_setting.1 "!InGaT".toList name 31 today hword hname hline (by decide) (by decide) hasks
  exact ⟨⟨hword, hname, hline, hasks⟩, hread, classify_setting.2 _ _ _ _ hread⟩

end Command

end BukuKas
