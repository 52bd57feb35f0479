import BukuKas.Command

/-!
# What a text records

A text records nothing, or one expense, or a list of at least two, each booked on the date on which
the text is read.  All other rules of the reading lead to intents without entries, so only the last
two rules have to be opened.

## Main results

* `rule_of_classify`, `management?_eq_some` : what each rule can answer.
* `classify_cases` : only the rules for expenses record.
* `readEntry_of_mem_entries` : each entry is read from the text or from a part of it.
* `date_of_classify`, `two_le_of_classify` : the entries of a recording.
-/

namespace BukuKas

open Calendar (Date)
open Text (lower)

namespace Reading

variable {α β : Type}

/-- What a search finds, its first rule finds, or its next rule after the first one found
nothing. -/
theorem orElse_cases {first : Reading α} {next : Unit → Reading α} {result : Reading α}
    (h : orElse first next = result) : first = result ∨ (first = .ok none ∧ next () = result) := by
  cases first with
  | error fault => exact .inl h
  | ok found =>
      cases found with
      | none => exact .inr ⟨rfl, h⟩
      | some a => exact .inl h

theorem map_id (t : Reading α) : map id t = t := by
  cases t with
  | error fault => rfl
  | ok found => cases found <;> rfl

theorem map_map {γ : Type} (g : β → γ) (f : α → β) (t : Reading α) :
    map g (map f t) = map (g ∘ f) t := by
  cases t with
  | error fault => rfl
  | ok found => cases found <;> rfl

theorem map_orElse (f : α → β) (first : Reading α) (next : Unit → Reading α) :
    map f (orElse first next) = orElse (map f first) fun u => map f (next u) := by
  cases first with
  | error fault => rfl
  | ok found => cases found <;> rfl

theorem map_found (f : α → β) (found : Option α) : map f (.ok found) = .ok (found.map f) := by
  cases found <;> rfl

theorem map_eq_some {f : α → β} {t : Reading α} {b : β} (h : map f t = .ok (some b)) :
    ∃ a, t = .ok (some a) ∧ f a = b := by
  cases t with
  | error fault => exact nomatch h
  | ok found =>
      cases found with
      | none => exact nomatch h
      | some a => exact ⟨a, rfl, by simpa [map] using h⟩

end Reading

namespace Command

/-! ## What the rules answer -/

theorem mem_of_question? {lowered : List Char} {intent : Intent}
    (h : question? lowered = some intent) :
    intent ∈ [Intent.remaining, .spending, .today, .categories, .help] := by
  have hguard {asked : Bool} {answer : Intent}
      (hsome : (if asked then some answer else none) = some intent) : intent = answer := by
    split at hsome
    · exact (Option.some.inj hsome).symm
    · exact nomatch hsome
  unfold question? at h
  simp only [List.mem_cons, List.not_mem_nil, or_false]
  rcases Option.or_eq_some_iff.mp h with h | ⟨-, h⟩
  · exact .inl (hguard h)
  rcases Option.or_eq_some_iff.mp h with h | ⟨-, h⟩
  · exact .inr (.inl (hguard h))
  rcases Option.or_eq_some_iff.mp h with h | ⟨-, h⟩
  · exact .inr (.inr (.inl (hguard h)))
  rcases Option.or_eq_some_iff.mp h with h | ⟨-, h⟩
  · exact .inr (.inr (.inr (.inl (hguard h))))
  · exact .inr (.inr (.inr (.inr (hguard h))))

theorem alert?_eq_some {lowered : List Char} {intent : Intent} (h : alert? lowered = some intent) :
    ∃ enabled, intent = .setAlert enabled := by
  unfold alert? at h
  split at h
  · split at h
    · exact ⟨true, (Option.some.inj h).symm⟩
    · split at h
      · exact ⟨false, (Option.some.inj h).symm⟩
      · exact nomatch h
  · exact nomatch h

/-- A reminder that is set has a name and a day of a month. -/
theorem addReminder?_eq_some {raw : List Char} {intent : Intent}
    (h : addReminder? raw = some intent) :
    ∃ (front : List Char) (day : Int), intent = .addReminder (String.ofList (Text.trim front)) day ∧
      Text.trim front ≠ [] ∧ 1 ≤ day ∧ day ≤ 31 := by
  have hreminder {argument : List Char} (hsome : reminder? argument = some intent) :
      ∃ (front : List Char) (day : Int),
        intent = .addReminder (String.ofList (Text.trim front)) day ∧
        Text.trim front ≠ [] ∧ 1 ≤ day ∧ day ≤ 31 := by
    unfold reminder? at hsome
    split at hsome
    · exact nomatch hsome
    · rename_i front last hsplit
      split at hsome
      · exact nomatch hsome
      · rename_i day hday
        split at hsome
        · exact nomatch hsome
        · rename_i hgood
          simp only [Bool.or_eq_true, decide_eq_true_eq, List.isEmpty_iff, not_or, Int.not_lt]
            at hgood
          exact ⟨front, day, (Option.some.inj hsome).symm, hgood.1.1, hgood.1.2, hgood.2⟩
  unfold addReminder? at h
  split at h
  · dsimp only at h
    split at h
    · exact hreminder h
    · exact nomatch h
  · exact nomatch h

/-- What a management command asks for: a report, a removal, the alert, or a reminder. -/
theorem management?_eq_some {raw lowered : List Char} {intent : Intent}
    (h : management? raw lowered = .ok (some intent)) :
    intent ∈ wordCommands.map Prod.snd ∨ (∃ n : Nat, intent = .delete n) ∨
      (∃ n : Nat, intent = .deleteReminder n) ∨ alert? lowered = some intent ∨
      addReminder? raw = some intent := by
  unfold management? at h
  split at h
  · exact nomatch h
  · split at h
    · rename_i command hfind
      injection h with h
      exact .inl (Option.some.inj h ▸ List.mem_map_of_mem (List.mem_of_find?_eq_some hfind))
    · right
      rcases Reading.orElse_cases h with h | ⟨-, h⟩
      · obtain ⟨n, -, hn⟩ := Reading.map_eq_some h
        exact .inl ⟨n, hn.symm⟩
      rcases Reading.orElse_cases h with h | ⟨-, h⟩
      · obtain ⟨n, -, hn⟩ := Reading.map_eq_some h
        exact .inl ⟨n, hn.symm⟩
      right
      rcases Reading.orElse_cases h with h | ⟨-, h⟩
      · obtain ⟨n, -, hn⟩ := Reading.map_eq_some h
        exact .inl ⟨n, hn.symm⟩
      right
      injection h with h
      exact (Option.or_eq_some_iff.mp h).imp_right And.right

/-- The rule that read a text, or the text itself when none did. -/
theorem rule_of_classify {text : List Char} {today : Date} {intent : Intent}
    (h : classify text today = .ok intent) :
    question? (lower (Text.trim text)) = some intent ∨
      management? (Text.trim text) (lower (Text.trim text)) = .ok (some intent) ∨
      many? (Text.trim text) today = .ok (some intent) ∨
      single? (Text.trim text) today = .ok (some intent) ∨
      intent = .unknown (String.ofList (Text.trim text)) := by
  unfold classify at h
  dsimp only at h
  split at h
  · exact nomatch h
  · rename_i found hrules
    injection h with h
    subst h
    unfold rules at hrules
    dsimp only at hrules
    rcases Reading.orElse_cases hrules with hquestion | ⟨-, hrules⟩
    · injection hquestion with hquestion
      exact .inl hquestion
    right
    rcases Reading.orElse_cases hrules with hmanagement | ⟨-, hrules⟩
    · exact .inl hmanagement
    right
    rcases Reading.orElse_cases hrules with hmany | ⟨-, hsingle⟩
    · exact .inl hmany
    · exact .inr (.inl hsingle)
  · injection h with h
    exact .inr (.inr (.inr (.inr h.symm)))

/-! ## What a text records -/

/-- Questions record nothing. -/
theorem records_question? {lowered : List Char} {intent : Intent}
    (h : question? lowered = some intent) : intent.records = false := by
  have hquestions : ∀ i ∈ [Intent.remaining, .spending, .today, .categories, .help],
      i.records = false := by
    decide
  exact hquestions intent (mem_of_question? h)

/-- Management commands record nothing. -/
theorem records_management? {raw lowered : List Char} {intent : Intent}
    (h : management? raw lowered = .ok (some intent)) : intent.records = false := by
  have hwords : ∀ i ∈ wordCommands.map Prod.snd, i.records = false := by decide
  rcases management?_eq_some h with h | ⟨n, rfl⟩ | ⟨n, rfl⟩ | h | h
  · exact hwords intent h
  · rfl
  · rfl
  · obtain ⟨enabled, rfl⟩ := alert?_eq_some h
    rfl
  · obtain ⟨front, day, rfl, -⟩ := addReminder?_eq_some h
    rfl

/-- What records something is a list of expenses, or else one expense. -/
theorem classify_cases {text : List Char} {today : Date} {intent : Intent}
    (h : classify text today = .ok intent) :
    intent.records = false ∨ many? (Text.trim text) today = .ok (some intent) ∨
      single? (Text.trim text) today = .ok (some intent) := by
  rcases rule_of_classify h with hquestion | hmanagement | hmany | hsingle | rfl
  · exact .inl (records_question? hquestion)
  · exact .inl (records_management? hmanagement)
  · exact .inr (.inl hmany)
  · exact .inr (.inr hsingle)
  · exact .inl rfl

theorem date_of_readEntry {text : List Char} {today : Date} {e : Entry}
    (h : readEntry text today = .ok (some e)) : e.date = today := by
  unfold readEntry at h
  split at h
  · exact nomatch h
  · exact nomatch h
  · split at h
    · exact nomatch h
    · injection h with h
      injection h with h
      rw [← h]

/-- Each of several entries is read from a text of its own. -/
theorem readEntry_of_mem_entriesOf {today : Date} {texts : List (List Char)} {es : List Entry}
    (h : entriesOf today texts = .ok es) {e : Entry} (he : e ∈ es) :
    ∃ text ∈ texts, readEntry text today = .ok (some e) := by
  induction texts generalizing es with
  | nil =>
      injection h with h
      simp [← h] at he
  | cons text texts ih =>
      rw [entriesOf] at h
      split at h
      · exact nomatch h
      · rename_i first hfirst
        split at h
        · exact nomatch h
        · rename_i others hothers
          injection h with h
          rw [← h] at he
          rcases List.mem_append.mp he with hmem | hmem
          · exact ⟨text, List.mem_cons_self,
              hfirst.trans (congrArg Except.ok (Option.mem_toList.mp hmem))⟩
          · obtain ⟨part, hpart, hread⟩ := ih hothers hmem
            exact ⟨part, List.mem_cons_of_mem text hpart, hread⟩

/-- The entries of a list of expenses are read from its segments, and there are at least two. -/
theorem entriesOf_of_many? {raw : List Char} {today : Date} {intent : Intent}
    (h : many? raw today = .ok (some intent)) :
    ∃ es, intent = .addMany es ∧ 2 ≤ es.length ∧
      entriesOf today (((segments raw).map Text.trim).filter (!·.isEmpty)) = .ok es := by
  unfold many? at h
  split at h
  · split at h
    · exact nomatch h
    · rename_i es hes
      injection h with h
      split at h
      · exact nomatch h
      · injection h with h
        exact ⟨es, h.symm, by omega, hes⟩
  · exact nomatch h

/-- What a message records is read from it, or from a part of it. -/
theorem readEntry_of_mem_entries {text : List Char} {today : Date} {intent : Intent}
    (h : classify text today = .ok intent) {e : Entry} (he : e ∈ intent.entries) :
    ∃ part, readEntry part today = .ok (some e) := by
  rcases classify_cases h with hnone | hmany | hsingle
  · rw [Intent.entries_eq_nil_of_not_records hnone] at he
    exact nomatch he
  · obtain ⟨es, rfl, -, hes⟩ := entriesOf_of_many? hmany
    obtain ⟨part, -, hpart⟩ := readEntry_of_mem_entriesOf hes he
    exact ⟨part, hpart⟩
  · obtain ⟨only, honly, rfl⟩ := Reading.map_eq_some hsingle
    rw [← List.mem_singleton.mp he] at honly
    exact ⟨_, honly⟩

/-- What a message records is booked on the date on which it is read. -/
theorem date_of_classify {text : List Char} {today : Date} {intent : Intent}
    (h : classify text today = .ok intent) : ∀ e ∈ intent.entries, e.date = today := by
  intro e he
  obtain ⟨part, hpart⟩ := readEntry_of_mem_entries h he
  exact date_of_readEntry hpart

/-- A list of expenses that is recorded has at least two of them. -/
theorem two_le_of_classify {text : List Char} {today : Date} {es : List Entry}
    (h : classify text today = .ok (.addMany es)) : 2 ≤ es.length := by
  rcases classify_cases h with hnone | hmany | hsingle
  · exact nomatch hnone
  · obtain ⟨entries, hentries, hlength, -⟩ := entriesOf_of_many? hmany
    injection hentries with hentries
    exact hentries ▸ hlength
  · obtain ⟨e, -, he⟩ := Reading.map_eq_some hsingle
    exact nomatch he

end Command

end BukuKas
