import BukuKas.Text.Blank

/-!
# Senders

A sender is known by a phone number, which may be written with white space around it, plus signs
before it and a server behind an at sign.  All these spellings mean one phone.  A list of phones
that are let in is written with commas.

## Main results

* `mem_allowed_iff` : a phone is on the list exactly when it is an entry without its ornaments.
-/

namespace BukuKas.Sender

open Text (trim)

/-- The text without the plus signs at its head. -/
def dropPlus (cs : List Char) : List Char := cs.dropWhile (· == '+')

/-- The phone of a sender. -/
def phone (raw : String) : String :=
  String.ofList (dropPlus ((trim raw.toList).takeWhile (· != '@')))

/-- What the sender of a group ends with. -/
def groupEnding : String := "@g.us"

/-- Whether the sender is a group. -/
def isGroup (raw : String) : Bool :=
  groupEnding.toList.isSuffixOf (trim raw.toList)

/-- The phone that an entry of a list means. -/
def listed (entry : List Char) : List Char := dropPlus (trim entry)

/-- The phones of a list that is written with commas.  Entries with nothing left are no phones. -/
def allowed (list : String) : List String :=
  (((Text.splitAt ',' list.toList).map listed).filter (!·.isEmpty)).map String.ofList

theorem mem_allowed_iff {list phone : String} :
    phone ∈ allowed list ↔
      phone.toList ≠ [] ∧ ∃ entry ∈ Text.splitAt ',' list.toList, listed entry = phone.toList := by
  simp only [allowed, List.mem_map, List.mem_filter, Bool.not_eq_true', List.isEmpty_eq_false_iff]
  constructor
  · rintro ⟨cs, ⟨⟨entry, hentry, rfl⟩, hne⟩, rfl⟩
    exact ⟨by simpa using hne, entry, hentry, by simp⟩
  · rintro ⟨hne, entry, hentry, h⟩
    exact ⟨listed entry, ⟨⟨entry, hentry, rfl⟩, by rw [h]; exact hne⟩, by rw [h]; simp⟩

/-- The phones of a list without repetitions, in the order of their characters. -/
def sortedList (list : String) : List String :=
  (allowed list).eraseDups.mergeSort fun a b => decide (a ≤ b)

/-- Whether the list lets the phone in.  An empty list lets everybody in. -/
def admits (list phone : String) : Bool :=
  (allowed list).isEmpty || (allowed list).contains phone

end BukuKas.Sender
