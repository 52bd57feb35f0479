import BukuKas.Proofs.Text.Edge
import BukuKas.Sender

/-!
# Spellings of phones

A phone is written in two places: as the sender of a message, and in the list of the phones that are
let in.  Both may have ornaments, which are white space around the phone and plus signs before it,
and a sender may have a server behind it.  The two places are read by different functions, of which
only one knows of servers.  On phones that are made of digits they agree: each takes off all that
does not belong to the phone, and nothing else.

## Main results

* `listed_eq_iff` : the entries of a list that mean a phone are its spellings.
* `phone_sender` : every spelling of a sender means its phone.
* `isGroup_sender_iff` : which spellings are those of a group.
* `admits_sender_iff` : whom a list lets in.
-/

namespace BukuKas.Sender

open Text (isBlank trim)

/-! ## Ornaments -/

/-- What may stand around a phone: white space at both ends, and plus signs before the phone. -/
structure Ornaments where
  front : List Char := []
  plus : Nat := 0
  back : List Char := []
  blank_front : ∀ c ∈ front, isBlank c = true
  blank_back : ∀ c ∈ back, isBlank c = true

namespace Ornaments

variable (o : Ornaments)

/-- Plus signs and what they stand before. -/
def stem (cs : List Char) : List Char := List.replicate o.plus '+' ++ cs

/-- A text between ornaments. -/
def around (cs : List Char) : List Char := o.front ++ (o.stem cs ++ o.back)

theorem trim_around (cs : List Char) : trim (o.around cs) = trim (o.stem cs) := by
  unfold around
  rw [Text.trim_blanks_append o.blank_front, Text.trim_append_blanks _ o.blank_back]

theorem stem_append (cs rest : List Char) : o.stem (cs ++ rest) = o.stem cs ++ rest := by
  rw [stem, stem, List.append_assoc]

theorem forall_mem_stem {P : Char → Prop} {cs : List Char} (hplus : P '+') (h : ∀ c ∈ cs, P c) :
    ∀ c ∈ o.stem cs, P c := by
  intro c hc
  rcases List.mem_append.mp hc with hc | hc
  · exact (List.eq_of_mem_replicate hc) ▸ hplus
  · exact h c hc

/-- The plus signs are taken off a text that begins with none. -/
theorem dropPlus_stem {cs : List Char} (h : cs.head? ≠ some '+') : dropPlus (o.stem cs) = cs := by
  have hplus : ∀ c ∈ List.replicate o.plus '+', (c == '+') = true := fun c hc =>
    beq_iff_eq.mpr (List.eq_of_mem_replicate hc)
  unfold dropPlus stem
  rw [List.dropWhile_append_of_pos hplus]
  apply Text.dropWhile_of_head?
  intro c hc
  rw [beq_eq_false_iff_ne]
  rintro rfl
  exact h hc

end Ornaments

/-- A text is what is left of it without plus signs, behind some plus signs. -/
theorem exists_plus (cs : List Char) : ∃ plus, cs = List.replicate plus '+' ++ dropPlus cs := by
  refine ⟨(cs.takeWhile (· == '+')).length, ?_⟩
  have hplus : ∀ c ∈ cs.takeWhile (· == '+'), c = '+' := fun c hc =>
    beq_iff_eq.mp (List.all_eq_true.mp List.all_takeWhile c hc)
  rw [← List.eq_replicate_of_mem hplus]
  exact List.takeWhile_append_dropWhile.symm

/-! ## Digits -/

/-- A phone as it is kept: a run of digits. -/
def IsDigits (digits : List Char) : Prop := ∀ c ∈ digits, c.isDigit = true

instance (digits : List Char) : Decidable (IsDigits digits) :=
  decidable_of_iff (digits.all Char.isDigit = true) List.all_eq_true

namespace IsDigits

variable {digits : List Char}

theorem not_isBlank (h : IsDigits digits) : ∀ c ∈ digits, isBlank c = false := fun c hc =>
  Text.isBlank_of_isDigit (Text.isDigit_of_ascii (h c hc))

theorem ne_of_mem (h : IsDigits digits) {c d : Char} (hc : c ∈ digits) (hd : d.isDigit = false) :
    c ≠ d := by
  rintro rfl
  exact nomatch (h c hc).symm.trans hd

theorem head?_ne_plus (h : IsDigits digits) : digits.head? ≠ some '+' := fun hhead =>
  h.ne_of_mem (List.mem_of_mem_head? hhead) (by decide) rfl

end IsDigits

/-! ## The list -/

/-- The entry of a list means a phone when it is a spelling of the phone without a server. -/
theorem listed_eq_iff {digits : List Char} (h : IsDigits digits) {entry : List Char} :
    listed entry = digits ↔ ∃ o : Ornaments, entry = o.around digits := by
  constructor
  · rintro rfl
    obtain ⟨front, back, hentry, hfront, hback⟩ := Text.exists_blanks entry
    obtain ⟨plus, hplus⟩ := exists_plus (trim entry)
    refine ⟨⟨front, plus, back, hfront, hback⟩, ?_⟩
    show entry = front ++ (List.replicate plus '+' ++ dropPlus (trim entry) ++ back)
    rw [← hplus]
    exact hentry
  · rintro ⟨o, rfl⟩
    have hstem : ∀ c ∈ o.stem digits, isBlank c = false :=
      o.forall_mem_stem (by decide) h.not_isBlank
    unfold listed
    rw [o.trim_around, Text.trim_of_ends (fun c hc => hstem c (List.mem_of_mem_head? hc))
      (fun c hc => hstem c (List.mem_of_getLast? hc)), o.dropPlus_stem h.head?_ne_plus]

/-- The text is an entry of a list: no comma stands in it, and it is one of the texts that the list
has between commas, with any other texts before and behind it. -/
def IsEntry (list : String) (entry : List Char) : Prop :=
  ',' ∉ entry ∧ ∃ before after, list.toList = [','].intercalate (before ++ entry :: after)

/-- A list lets a phone in: nothing is left of any of its entries without white space and plus
signs, or one of them is a spelling of the phone. -/
def LetsIn (list : String) (digits : List Char) : Prop :=
  (∀ entry, IsEntry list entry → listed entry = []) ∨
    ∃ entry, IsEntry list entry ∧ ∃ o : Ornaments, entry = o.around digits

theorem allowed_eq_nil_iff {list : String} :
    allowed list = [] ↔ ∀ entry, IsEntry list entry → listed entry = [] := by
  unfold allowed IsEntry
  simp only [List.map_eq_nil_iff, List.filter_eq_nil_iff, List.forall_mem_map, Bool.not_eq_true',
    List.isEmpty_eq_false_iff, ne_eq, Decidable.not_not, ← Text.mem_splitAt_iff]

theorem admits_digits_iff {digits : List Char} (hne : digits ≠ []) (h : IsDigits digits)
    {list : String} :
    admits list (String.ofList digits) = true ↔ LetsIn list digits := by
  unfold admits LetsIn
  rw [Bool.or_eq_true, List.isEmpty_iff, allowed_eq_nil_iff, List.contains_iff_mem, mem_allowed_iff,
    String.toList_ofList]
  simp only [hne, ne_eq, not_false_eq_true, true_and, Text.mem_splitAt_iff, listed_eq_iff h]
  rfl

/-! ## Senders -/

/-- How a phone is written as a sender: with ornaments, and with a server behind it or without
one. -/
structure Spelling extends Ornaments where
  /-- What stands behind an at sign, if there is one. -/
  server : Option (List Char) := none

namespace Spelling

variable (a : Spelling) {digits : List Char}

/-- What stands behind the phone: nothing, or an at sign and the server. -/
def suffix : List Char :=
  match a.server with
  | none => []
  | some rest => '@' :: rest

/-- The sender that is written so. -/
def sender (digits : List Char) : String := String.ofList (a.around (digits ++ a.suffix))

/-- The server is that of a group.  White space at its end is white space around the sender. -/
def OfGroup : Prop := groupEnding.toList <:+ trim a.suffix

instance : Decidable a.OfGroup := inferInstanceAs (Decidable (groupEnding.toList <:+ trim a.suffix))

theorem head?_suffix : ∀ c ∈ a.suffix.head?, c = '@' := by
  unfold suffix
  intro c hc
  cases hserver : a.server with
  | none => simp [hserver] at hc
  | some rest => simpa [hserver, eq_comm] using hc

theorem not_isBlank_suffix : ∀ c ∈ a.suffix.head?, isBlank c = false := fun c hc => by
  rw [a.head?_suffix c hc]
  decide

theorem trim_sender (h : IsDigits digits) :
    trim (a.sender digits).toList = a.stem digits ++ trim a.suffix := by
  unfold sender
  rw [String.toList_ofList, a.trim_around, a.stem_append]
  exact Text.trim_append (a.forall_mem_stem (by decide) h.not_isBlank) a.not_isBlank_suffix

theorem not_at_of_mem_stem (h : IsDigits digits) : ∀ c ∈ a.stem digits, c ≠ '@' :=
  a.forall_mem_stem (by decide) fun _ hc => h.ne_of_mem hc (by decide)

/-- However a sender is written, the phone is found. -/
theorem phone_sender (h : IsDigits digits) : phone (a.sender digits) = String.ofList digits := by
  have hstem : ∀ c ∈ a.stem digits, (c != '@') = true := fun c hc =>
    bne_iff_ne.mpr (a.not_at_of_mem_stem h c hc)
  have hsuffix : (trim a.suffix).head?.any (· != '@') = false := by
    rw [Text.head?_trim a.not_isBlank_suffix, Option.any_eq_false]
    intro c hc
    rw [a.head?_suffix c hc]
    decide
  unfold phone
  rw [a.trim_sender h, Text.takeWhile_append_of_head? _ hsuffix,
    List.takeWhile_eq_self_iff.mpr hstem, a.dropPlus_stem h.head?_ne_plus]

/-- A sender is a group when its server is that of a group: nothing of the phone belongs to the
ending. -/
theorem isGroup_sender_iff (h : IsDigits digits) :
    isGroup (a.sender digits) = true ↔ a.OfGroup := by
  unfold isGroup OfGroup
  rw [a.trim_sender h, List.isSuffixOf_iff_suffix]
  constructor
  · rintro ⟨front, hfront⟩
    rcases List.append_eq_append_iff.mp hfront with ⟨part, hstem, hending⟩ | ⟨part, -, hsuffix⟩
    · cases part with
      | nil => exact ⟨[], hending⟩
      | cons c part =>
          have hc : c = '@' := by
            have hcons : '@' :: "g.us".toList = c :: (part ++ trim a.suffix) := hending
            exact (List.cons.inj hcons).1.symm
          have hmem : c ∈ a.stem digits := by
            rw [hstem]
            exact List.mem_append_right _ List.mem_cons_self
          exact absurd hc (a.not_at_of_mem_stem h c hmem)
    · exact ⟨part, hsuffix.symm⟩
  · exact fun hending => hending.trans (List.suffix_append _ _)

/-- A list lets in the spellings of the phones that are written in it. -/
theorem admits_sender_iff (hne : digits ≠ []) (h : IsDigits digits) {list : String} :
    admits list (phone (a.sender digits)) = true ↔ LetsIn list digits := by
  rw [a.phone_sender h]
  exact admits_digits_iff hne h

end Spelling

end BukuKas.Sender
