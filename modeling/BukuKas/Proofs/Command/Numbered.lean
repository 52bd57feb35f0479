import BukuKas.Proofs.Command.Reading
import BukuKas.Proofs.Text.Digits

/-!
# Commands with a number

A command word, a space and a numeral are read as the command with the number that the numeral
writes.  No earlier rule takes the text for itself: the words of the questions hold no digits, so
they would have to stand in the command word, and no command of one word ends with a digit.

## Main results

* `classify_delete`, `classify_deleteReminder` : the commands that remove by a number.
-/

namespace BukuKas.Command

open Calendar (Date)
open Number (Writes)
open Text (isDigit isBlank lower contains)

variable {ds : List Char} {n : Nat}

/-! ## Words and digits -/

theorem mentions_append_digits {words : List String}
    (hwords : ∀ word ∈ words, ∀ d ∈ word.toList, isDigit d = false) (cs : List Char)
    (hds : ∀ d ∈ ds, isDigit d = true) : mentions words (cs ++ ds) = mentions words cs := by
  unfold mentions
  rw [Bool.eq_iff_iff, List.any_eq_true, List.any_eq_true]
  refine exists_congr fun word => and_congr_right fun hword => ?_
  rw [Text.contains_append_digits (hwords word hword) cs hds]

/-- A word without digits does not end with digits. -/
theorem ne_append_digits {word : List Char} (hword : ∀ d ∈ word, isDigit d = false) (cs : List Char)
    (hn : Writes ds n) : (word == cs ++ ds) = false := by
  apply beq_false_of_ne
  rintro rfl
  obtain ⟨d, hd⟩ := List.exists_mem_of_ne_nil ds hn.nonempty
  exact nomatch (hn.digits d hd).symm.trans (hword d (List.mem_append_right cs hd))

theorem isOneOf_append_digits {words : List String}
    (hwords : ∀ word ∈ words, ∀ d ∈ word.toList, isDigit d = false) (cs : List Char)
    (hn : Writes ds n) : isOneOf words (cs ++ ds) = false := by
  unfold isOneOf
  rw [List.any_eq_false]
  intro word hword
  rw [ne_append_digits (hwords word hword) cs hn]
  decide

/-- A text that ends with digits is no question when it has none of the words that ask one. -/
theorem question?_of_digits {cs : List Char} (hn : Writes ds n)
    (hremaining : remaining? (cs ++ ds) = none)
    (hspending : mentions ["total", "pengeluaran"] (cs ++ ds) = false)
    (htoday : mentions ["hari ini"] (cs ++ ds) = false) : question? (cs ++ ds) = none := by
  have hother (words : List String)
      (hwords : words.all (fun word => word.toList.all fun d => !isDigit d) = true) :
      isOneOf words (cs ++ ds) = false :=
    isOneOf_append_digits (Text.not_isDigit_of_words hwords) cs hn
  unfold question? spending? today? categories? help?
  rw [hremaining, hspending, htoday, hother ["!hari", "!today"] (by decide),
    hother ["!kategori", "!cat"] (by decide), hother ["!help", "help"] (by decide)]
  rfl

/-- Digits behind a text make no question of it. -/
theorem question?_append_digits {cs : List Char} (hn : Writes ds n)
    (hremaining : mentions ["sisa", "budget"] cs = false)
    (hspending : mentions ["total", "pengeluaran"] cs = false)
    (htoday : mentions ["hari ini"] cs = false) : question? (cs ++ ds) = none := by
  have hsame (words : List String)
      (hwords : words.all (fun word => word.toList.all fun d => !isDigit d) = true) :
      mentions words (cs ++ ds) = mentions words cs :=
    mentions_append_digits (Text.not_isDigit_of_words hwords) cs hn.digits
  apply question?_of_digits hn
  · rw [remaining?, hsame ["sisa", "budget"] (by decide), hremaining]
    rfl
  · rw [hsame ["total", "pengeluaran"] (by decide), hspending]
  · rw [hsame ["hari ini"] (by decide), htoday]

/-- No command of one word ends with digits. -/
theorem find?_wordCommands_append_digits (cs : List Char) (hn : Writes ds n) :
    (wordCommands.find? fun command => command.1.toList == cs ++ ds) = none := by
  have hwords : ∀ word ∈ wordCommands.map Prod.fst, ∀ d ∈ word.toList, isDigit d = false :=
    Text.not_isDigit_of_words (by decide)
  rw [List.find?_eq_none]
  intro command hcommand
  rw [ne_append_digits (hwords command.1 (List.mem_map_of_mem hcommand)) cs hn]
  decide

/-! ## The number -/

/-- A command word is followed by its argument, or by a letter that makes another word of it. -/
theorem argument?_append (word : String) {c : Char} (cs : List Char) :
    argument? word (word.toList ++ c :: cs) =
      if isBlank c = true then some (cs.dropWhile isBlank) else none := by
  unfold argument?
  rw [if_pos (List.isPrefixOf_iff_prefix.mpr (List.prefix_append _ _)), List.drop_left]

/-- A numeral behind a command word and a space is read as its number. -/
theorem index?_of_writes (word : String) (hn : Writes ds n) :
    index? word (word.toList ++ ' ' :: ds) = .ok (some n) := by
  obtain ⟨d, rest, rfl⟩ := List.exists_cons_of_ne_nil hn.nonempty
  have hblank : isBlank d = false := Text.isBlank_of_isDigit (hn.digits d List.mem_cons_self)
  have hall : (d :: rest).all isDigit = true := List.all_eq_true.mpr hn.digits
  have hread : Number.readNat (d :: rest) = .ok n := by
    unfold Number.readNat
    rw [if_neg (Nat.not_lt.mpr hn.short), hn.value]
  unfold index?
  rw [argument?_append, if_pos (by decide),
    List.dropWhile_cons_of_neg (Bool.eq_false_iff.mp hblank)]
  dsimp only
  rw [if_pos hall, hread]

/-- Without a blank behind its word a command has no number. -/
theorem index?_of_letter (word : String) {c : Char} (hc : isBlank c = false) (cs : List Char) :
    index? word (word.toList ++ c :: cs) = .ok none := by
  unfold index?
  rw [argument?_append, if_neg (Bool.eq_false_iff.mp hc)]

/-- A text that does not begin with the word of a command has no argument for it. -/
theorem argument?_of_other {word : String} {text : List Char}
    (h : word.toList.isPrefixOf text = false) : argument? word text = none := by
  unfold argument?
  rw [if_neg (Bool.eq_false_iff.mp h)]

theorem index?_of_other {word : String} {text : List Char}
    (h : word.toList.isPrefixOf text = false) : index? word text = .ok none := by
  unfold index?
  rw [argument?_of_other h]

theorem trim_append_digits {cs : List Char} {first : Char} (hhead : cs.head? = some first)
    (hfirst : isBlank first = false) (hn : Writes ds n) : Text.trim (cs ++ ds) = cs ++ ds := by
  apply Text.trim_of_ends
  · intro c hc
    rw [List.head?_append, hhead, Option.some_or] at hc
    rw [← Option.some.inj (Option.mem_def.mp hc)]
    exact hfirst
  · intro c hc
    rw [List.getLast?_append, List.getLast?_eq_some_getLast hn.nonempty, Option.some_or] at hc
    rw [← Option.some.inj (Option.mem_def.mp hc)]
    exact Text.isBlank_of_isDigit (hn.digits _ (List.getLast_mem hn.nonempty))

theorem lower_append_digits {cs : List Char} (hcs : ∀ c ∈ cs, Text.IsLow c) (hn : Writes ds n) :
    lower (cs ++ ds) = cs ++ ds := by
  apply Text.lowerFrom_of_isLow
  intro c hc
  rcases List.mem_append.mp hc with hc | hc
  · exact hcs c hc
  · exact Text.isLow_of_isDigit (hn.digits c hc)

/-! ## Commands -/

/-- The beginning of a command for removals in lower case, in which no question is asked. -/
structure Begins (cs : List Char) : Prop where
  marked : cs.head? = some '!'
  second : cs[1]? = some 'h'
  low : ∀ c ∈ cs, Text.IsLow c
  remaining : mentions ["sisa", "budget"] cs = false
  spending : mentions ["total", "pengeluaran"] cs = false
  today : mentions ["hari ini"] cs = false

/-- A command that ends with digits is one of those with a number, in their order. -/
theorem classify_append_digits {cs : List Char} (hcs : Begins cs) (hn : Writes ds n)
    {intent : Intent}
    (h : (Reading.orElse (Reading.map (fun k : Nat => .delete k) (index? "!hapus" (cs ++ ds)))
      fun _ =>
      Reading.orElse (Reading.map (fun k : Nat => .delete k) (index? "!delete" (cs ++ ds))) fun _ =>
      Reading.map (fun k : Nat => .deleteReminder k) (index? "!hapusingat" (cs ++ ds))) =
        .ok (some intent)) (today : Date) : classify (cs ++ ds) today = .ok intent := by
  have hhead : (cs ++ ds).head? = some '!' := by
    rw [List.head?_append, hcs.marked, Option.some_or]
  have hmanagement : management? (cs ++ ds) (cs ++ ds) = .ok (some intent) := by
    unfold management?
    rw [hhead, if_neg (by decide), find?_wordCommands_append_digits cs hn]
    dsimp only
    rcases Reading.orElse_cases h with hfirst | ⟨hfirst, h⟩
    · rw [hfirst, Reading.orElse_some]
    rw [hfirst, Reading.orElse_none]
    rcases Reading.orElse_cases h with hsecond | ⟨hsecond, h⟩
    · rw [hsecond, Reading.orElse_some]
    rw [hsecond, Reading.orElse_none, h, Reading.orElse_some]
  unfold classify rules
  dsimp only
  rw [trim_append_digits hcs.marked (by decide) hn, lower_append_digits hcs.low hn,
    question?_append_digits hn hcs.remaining hcs.spending hcs.today, hmanagement]
  rfl

/-- A question is answered before anything else. -/
theorem classify_of_question {text : List Char} {intent : Intent}
    (h : question? (lower (Text.trim text)) = some intent) (today : Date) :
    classify text today = .ok intent := by
  unfold classify rules
  dsimp only
  rw [h]
  rfl

/-- A command of one word is read when the text asks no question. -/
theorem classify_of_wordCommand {text : List Char} {command : String × Intent}
    (hquestion : question? (lower (Text.trim text)) = none)
    (hhead : (lower (Text.trim text)).head? = some '!')
    (hfind : (wordCommands.find? fun c => c.1.toList == lower (Text.trim text)) = some command)
    (today : Date) : classify text today = .ok command.2 := by
  unfold classify rules management?
  dsimp only
  rw [hquestion, hhead, if_neg (by decide), hfind]
  rfl

theorem begins_delete : Begins "!hapus ".toList where
  marked := by decide +kernel
  second := by decide +kernel
  low := Text.isLow_of_all (by decide +kernel)
  remaining := by decide +kernel
  spending := by decide +kernel
  today := by decide +kernel

theorem begins_deleteReminder : Begins "!hapusingat ".toList where
  marked := by decide +kernel
  second := by decide +kernel
  low := Text.isLow_of_all (by decide +kernel)
  remaining := by decide +kernel
  spending := by decide +kernel
  today := by decide +kernel

/-- The command that removes an expense by its number. -/
theorem classify_delete (hn : Writes ds n) (today : Date) :
    classify ("!hapus ".toList ++ ds) today = .ok (.delete n) := by
  have hword : "!hapus ".toList = "!hapus".toList ++ [' '] := by decide +kernel
  apply classify_append_digits begins_delete hn
  rw [hword, List.append_assoc, List.singleton_append, index?_of_writes "!hapus" hn]
  rfl

/-- The command that removes a reminder by its number.  It begins with the word of the command for
expenses, but no blank follows there. -/
theorem classify_deleteReminder (hn : Writes ds n) (today : Date) :
    classify ("!hapusingat ".toList ++ ds) today = .ok (.deleteReminder n) := by
  have hreminder : index? "!hapusingat" ("!hapusingat ".toList ++ ds) = .ok (some n) := by
    have hword : "!hapusingat ".toList = "!hapusingat".toList ++ [' '] := by decide +kernel
    rw [hword, List.append_assoc]
    exact index?_of_writes "!hapusingat" hn
  have hexpense : index? "!hapus" ("!hapusingat ".toList ++ ds) = .ok none := by
    have hword : "!hapusingat ".toList = "!hapus".toList ++ 'i' :: "ngat ".toList := by
      decide +kernel
    rw [hword, List.append_assoc]
    exact index?_of_letter "!hapus" (by decide) _
  have hdelete : index? "!delete" ("!hapusingat ".toList ++ ds) = .ok none := by
    apply index?_of_other
    have hcommand : "!delete".toList = '!' :: 'd' :: "elete".toList := by decide +kernel
    have hword : "!hapusingat ".toList = '!' :: 'h' :: "apusingat ".toList := by decide +kernel
    rw [hcommand, hword]
    rfl
  apply classify_append_digits begins_deleteReminder hn
  rw [hexpense, hdelete, hreminder]
  rfl

end BukuKas.Command
