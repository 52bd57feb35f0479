import BukuKas.Category
import BukuKas.Intent
import BukuKas.Label

/-!
# Reading a message

A message is read by rules that are tried in order, and the first that answers decides.  Questions
come before recordings, so that a question about the budget is never booked; management commands
begin with an exclamation mark; the rest is read as a list of expenses divided by commas, or as one
expense.

## Main results

* `segments_ne_nil`, `join_segments` : the segments of a text, joined by commas, are the text.
-/

namespace BukuKas

open Calendar (Date)
open Text (isDigit isBlank trim lower contains dropLoose?)

/-- A fault, no answer, or an answer. -/
abbrev Reading (α : Type) := Except Fault (Option α)

namespace Reading

/-- The first answer, a fault ending the search for one. -/
def orElse {α : Type} (first : Reading α) (next : Unit → Reading α) : Reading α :=
  match first with
  | .ok none => next ()
  | decided => decided

/-- The answer changed, when there is one. -/
def map {α β : Type} (f : α → β) : Reading α → Reading β
  | .error fault => .error fault
  | .ok none => .ok none
  | .ok (some a) => .ok (some (f a))

@[simp] theorem orElse_none {α : Type} (next : Unit → Reading α) :
    orElse (.ok none) next = next () := rfl

@[simp] theorem orElse_some {α : Type} (a : α) (next : Unit → Reading α) :
    orElse (.ok (some a)) next = .ok (some a) := rfl

@[simp] theorem orElse_error {α : Type} (fault : Fault) (next : Unit → Reading α) :
    orElse (.error fault) next = .error fault := rfl

end Reading

namespace Command

/-- Whether one of the words stands somewhere in the text. -/
def mentions (words : List String) (text : List Char) : Bool :=
  words.any fun word => contains word.toList text

/-- Whether the text is one of the words. -/
def isOneOf (words : List String) (text : List Char) : Bool :=
  words.any fun word => word.toList == text

/-! ## Questions -/

/-- A question for what is left, unless the message says that it records something. -/
def remaining? (lowered : List Char) : Option Intent :=
  if mentions ["sisa", "budget"] lowered && !mentions ["catat", "tambah"] lowered then
    some .remaining
  else none

/-- A question for what was spent. -/
def spending? (lowered : List Char) : Option Intent :=
  if mentions ["total", "pengeluaran"] lowered then some .spending else none

/-- A question for the expenses of today. -/
def today? (lowered : List Char) : Option Intent :=
  if isOneOf ["!hari", "!today"] lowered || mentions ["hari ini"] lowered then some .today
  else none

/-- A question for the categories. -/
def categories? (lowered : List Char) : Option Intent :=
  if isOneOf ["!kategori", "!cat"] lowered then some .categories else none

/-- A question for help. -/
def help? (lowered : List Char) : Option Intent :=
  if isOneOf ["!help", "help"] lowered then some .help else none

/-! ## Management commands -/

/-- The commands that consist of one word. -/
def wordCommands : List (String × Intent) := [
  ("!undo", .undo), ("!batal", .undo),
  ("!minggu", .weekly), ("!mingguan", .weekly), ("!week", .weekly),
  ("!pengingat", .listReminders), ("!reminder", .listReminders),
  ("!banding", .comparison), ("!compare", .comparison),
  ("!prediksi", .prediction), ("!predict", .prediction),
  ("!rekap", .recap), ("!recap", .recap),
  ("!tantangan", .challenge), ("!challenge", .challenge),
  ("!sehat", .health), ("!health", .health),
  ("!mood", .mood),
  ("!tips", .tip), ("!tip", .tip)]

/-- What follows the command word and at least one blank, when the text begins so. -/
def argument? (word : String) (text : List Char) : Option (List Char) :=
  if word.toList.isPrefixOf text then
    match text.drop word.toList.length with
    | c :: cs => if isBlank c then some (cs.dropWhile isBlank) else none
    | [] => none
  else none

/-- A number behind the command word. -/
def index? (word : String) (lowered : List Char) : Reading Nat :=
  match argument? word lowered with
  | some (d :: ds) =>
    if (d :: ds).all isDigit then
      match Number.readNat (d :: ds) with
      | .ok n => .ok (some n)
      | .error count => .error (.numeralTooLong count)
    else .ok none
  | _ => .ok none

/-- The command that turns the alert on or off. -/
def alert? (lowered : List Char) : Option Intent :=
  match argument? "!alert" lowered with
  | some argument =>
    if isOneOf ["on", "nyala"] argument then some (.setAlert true)
    else if isOneOf ["off", "mati"] argument then some (.setAlert false)
    else none
  | none => none

/-- The last day of a month for which a reminder can be set. -/
def lastReminderDay : Nat := 31

/-- The name and the day of a reminder: the last word is the day. -/
def reminder? (argument : List Char) : Option Intent :=
  match Text.splitLastWord? argument with
  | none => none
  | some (front, last) =>
    match Number.readInt? last with
    | none => none
    | some day =>
      if (trim front).isEmpty || day < 1 || (lastReminderDay : Int) < day then none
      else some (.addReminder (String.ofList (trim front)) day)

/-- The command that sets a reminder.  Its word may be written loosely, and its argument stays on
one line. -/
def addReminder? (raw : List Char) : Option Intent :=
  match dropLoose? ['i', 'n', 'g', 'a', 't'] (raw.drop 1) with
  | some (c :: cs) =>
    let argument := cs.dropWhile isBlank
    if raw.head? == some '!' && isBlank c && !argument.isEmpty && !argument.contains '\n' then
      reminder? argument
    else none
  | _ => none

/-- The management commands. -/
def management? (raw lowered : List Char) : Reading Intent :=
  if lowered.head? != some '!' then .ok none
  else
    match wordCommands.find? fun command => command.1.toList == lowered with
    | some command => .ok (some command.2)
    | none =>
      Reading.orElse (Reading.map (fun n : Nat => .delete n) (index? "!hapus" lowered)) fun _ =>
      Reading.orElse (Reading.map (fun n : Nat => .delete n) (index? "!delete" lowered)) fun _ =>
      Reading.orElse (Reading.map (fun n : Nat => .deleteReminder n) (index? "!hapusingat" lowered))
        fun _ =>
      .ok ((alert? lowered).or (addReminder? raw))

/-! ## Expenses -/

/-- The entry that a text records, when it names an amount. -/
def readEntry (text : List Char) (today : Date) : Reading Entry :=
  match Amount.extract text with
  | .error fault => .error fault
  | .ok none => .ok none
  | .ok (some amount) =>
    match Tag.extract text with
    | .error fault => .error fault
    | .ok tag => .ok (some ⟨Label.derive text, amount, (Category.classify text tag).name, today⟩)

/-- The segments between commas that divide a list.  A comma between two digits belongs to a
number. -/
def segmentsAfter : (before : Option Char) → List Char → List (List Char)
  | _, [] => [[]]
  | before, c :: cs =>
    let divides := c == ',' && !(before.any isDigit && cs.head?.any isDigit)
    match segmentsAfter (some c) cs with
    | [] => [[c]]
    | part :: parts => if divides then [] :: part :: parts else (c :: part) :: parts

/-- The segments of a list. -/
def segments (text : List Char) : List (List Char) :=
  segmentsAfter none text

theorem segmentsAfter_ne_nil (before : Option Char) (text : List Char) :
    segmentsAfter before text ≠ [] := by
  cases text with
  | nil => simp [segmentsAfter]
  | cons c cs =>
    simp only [segmentsAfter]
    split
    · simp
    · split <;> simp

theorem segments_ne_nil (text : List Char) : segments text ≠ [] :=
  segmentsAfter_ne_nil none text

theorem join_segmentsAfter (before : Option Char) (text : List Char) :
    [','].intercalate (segmentsAfter before text) = text := by
  induction text generalizing before with
  | nil => rfl
  | cons c cs ih =>
    have hne := segmentsAfter_ne_nil (some c) cs
    have hih := ih (some c)
    simp only [segmentsAfter]
    cases hs : segmentsAfter (some c) cs with
    | nil => exact absurd hs hne
    | cons part parts =>
      rw [hs] at hih
      dsimp only
      split
      · rename_i hd
        have hc : c = ',' := by
          simp only [Bool.and_eq_true, beq_iff_eq] at hd
          exact hd.1
        rw [List.intercalate, List.intersperse_cons_cons, ← hih, hc]
        simp [List.intercalate]
      · rw [← hih]
        cases parts <;> simp [List.intercalate]

/-- The segments joined by commas are the text. -/
theorem join_segments (text : List Char) : [','].intercalate (segments text) = text :=
  join_segmentsAfter none text

/-- The entries that the texts record, in order; texts that record nothing are passed over. -/
def entriesOf (today : Date) : List (List Char) → Except Fault (List Entry)
  | [] => .ok []
  | text :: texts =>
    match readEntry text today with
    | .error fault => .error fault
    | .ok first =>
      match entriesOf today texts with
      | .error fault => .error fault
      | .ok others => .ok (first.toList ++ others)

/-- A list of at least two expenses. -/
def many? (raw : List Char) (today : Date) : Reading Intent :=
  if raw.contains ',' then
    match entriesOf today (((segments raw).map trim).filter (!·.isEmpty)) with
    | .error fault => .error fault
    | .ok entries => .ok (if entries.length < 2 then none else some (.addMany entries))
  else .ok none

/-- One expense. -/
def single? (raw : List Char) (today : Date) : Reading Intent :=
  Reading.map .add (readEntry raw today)

/-! ## All rules -/

/-- The questions, in order. -/
def question? (lowered : List Char) : Option Intent :=
  (remaining? lowered).or <| (spending? lowered).or <| (today? lowered).or <|
    (categories? lowered).or (help? lowered)

/-- All rules in order, the text already trimmed. -/
def rules (raw : List Char) (today : Date) : Reading Intent :=
  let lowered := lower raw
  Reading.orElse (.ok (question? lowered)) fun _ =>
  Reading.orElse (management? raw lowered) fun _ =>
  Reading.orElse (many? raw today) fun _ =>
  single? raw today

/-- What a message asks for. -/
def classify (text : List Char) (today : Date) : Except Fault Intent :=
  let raw := trim text
  match rules raw today with
  | .error fault => .error fault
  | .ok (some intent) => .ok intent
  | .ok none => .ok (.unknown (String.ofList raw))

/-! ## Hints -/

/-- The commands whose misuse is answered, with the answer. -/
def hints : List (String × String) := [
  ("!hapusingat", "❌ Format: !hapusingat <nomor>\n\nContoh: !hapusingat 1"),
  ("!ingat", "❌ Format: !ingat <nama> <tanggal 1-31>\n\nContoh: !ingat Bayar listrik 5"),
  ("!hapus", "❌ Format: !hapus <nomor>\n\nLihat nomornya dengan !hari"),
  ("!delete", "❌ Format: !delete <nomor>\n\nLihat nomornya dengan !hari"),
  ("!alert", "❌ Format: !alert on atau !alert off")]

/-- The hint for a management command whose arguments are wrong. -/
def hint? (text : List Char) : Option String :=
  let lowered := lower (trim text)
  if lowered.head? == some '!' then
    match Text.words lowered with
    | [] => none
    | marker :: _ => (hints.find? fun h => h.1.toList == marker).map Prod.snd
  else none

end Command

end BukuKas
