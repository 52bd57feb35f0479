import BukuKas.Proofs.Command.Reading

/-!
# What entries are like

Whatever a text says, the entry that is read from it names an item and one of the known categories.
A label of which nothing is left is replaced by a standard one, and making its first letter large
never makes it vanish; a tag that is the number of no category does not count.

## Main results

* `described_of_classify` : every entry of a message names an item and a known category.
-/

namespace BukuKas

open Calendar (Date)

namespace Text

/-- No character vanishes in upper case. -/
theorem upperChar_ne_nil (c : Char) : upperChar c ≠ [] := by
  have htable : ∀ item ∈ upperExpansions, item.2 ≠ [] := by decide
  unfold upperChar
  split
  · exact List.cons_ne_nil _ _
  · unfold mapCase
    cases hlookup : upperExpansions.lookup c.toNat with
    | none => exact List.cons_ne_nil _ _
    | some ns =>
        obtain ⟨front, back, hitems, -⟩ := List.lookup_eq_some_iff.mp hlookup
        have hne : ns ≠ [] := htable (c.toNat, ns) (by rw [hitems]; simp)
        simpa using hne

theorem capitalize_ne_nil {cs : List Char} (h : cs ≠ []) : capitalize cs ≠ [] := by
  cases cs with
  | nil => exact absurd rfl h
  | cons c cs => exact List.append_ne_nil_of_left_ne_nil (upperChar_ne_nil c) cs

end Text

/-- A label is never empty. -/
theorem Label.derive_ne_empty (cs : List Char) : derive cs ≠ "" := by
  unfold derive
  split
  · decide
  · rename_i label hlabel
    intro hempty
    have hnil : Text.capitalize (core cs) = [] := by
      simpa using congrArg String.toList hempty
    exact Text.capitalize_ne_nil hlabel hnil

theorem Category.mem_all (c : Category) : c ∈ all := by
  cases c <;> decide

/-- An entry names an item and one of the categories. -/
structure Entry.Described (e : Entry) : Prop where
  item : e.item ≠ ""
  category : e.category ∈ Category.all.map Category.name

namespace Command

theorem described_of_readEntry {text : List Char} {today : Date} {e : Entry}
    (h : readEntry text today = .ok (some e)) : e.Described := by
  unfold readEntry at h
  split at h
  · exact nomatch h
  · exact nomatch h
  · split at h
    · exact nomatch h
    · injection h with h
      injection h with h
      subst h
      exact ⟨Label.derive_ne_empty text, List.mem_map_of_mem (Category.mem_all _)⟩

/-- Every entry of a message names an item and one of the categories. -/
theorem described_of_classify {text : List Char} {today : Date} {intent : Intent}
    (h : classify text today = .ok intent) : ∀ e ∈ intent.entries, e.Described := by
  intro e he
  obtain ⟨part, hpart⟩ := readEntry_of_mem_entries h he
  exact described_of_readEntry hpart

end Command

end BukuKas
