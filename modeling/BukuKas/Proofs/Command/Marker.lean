import BukuKas.Proofs.Command.Listing
import BukuKas.Proofs.Text.Word

/-!
# Misused commands

A management command whose arguments are wrong is no management command, and the rules for expenses
get to see it.  They look for an amount only, so what happens is decided by the arguments: a misused
command that names no amount is unknown, and the answer is the hint for its marker; one that names
an amount is recorded.

The hint is found by the first word of the text in lower case.  That this is the lower case of its
first word is not obvious, since the lower case of a sigma depends on what stands behind it; no
marker holds one.

## Main results

* `hint?_of_beginsWith` : the hint for a text that begins with a marker.
* `classify_of_marker` : what a text that begins with a marker is read as.
-/

namespace BukuKas

open Calendar (Date)
open Text (isBlank lower lowerFrom trim words)

namespace Command

variable {text : List Char} {today : Date}

/-- The first word of the text is the marker, in any case. -/
def BeginsWith (text : List Char) (marker : String) : Prop :=
  (words text).head?.map lower = some marker.toList

/-- What the markers have in common, and that each has one hint. -/
theorem hints_spec : ∀ h ∈ hints, h.1.toList.head? = some '!' ∧ h.1.toList.all Text.isInk = true ∧
    '\u03C2' ∉ h.1.toList ∧ '\u03C3' ∉ h.1.toList ∧
    hints.find? (fun other => other.1.toList == h.1.toList) = some h := by
  decide +kernel

/-- The hint for a text that begins with a marker is the one for that marker. -/
theorem hint?_of_beginsWith {marker answer : String} (hmem : (marker, answer) ∈ hints)
    (h : BeginsWith text marker) : hint? (trim text) = some answer := by
  obtain ⟨hhead, hink, hfinal, hsmall, hfind⟩ := hints_spec _ hmem
  obtain ⟨rest, hlower, hrest⟩ := Text.exists_rest_lower h hfinal hsmall
  have hne : marker.toList ≠ [] := by
    intro hnil
    rw [hnil] at hhead
    exact nomatch hhead
  have hmark : (lower (trim text)).head? = some '!' := by
    rw [hlower, List.head?_append, hhead, Option.some_or]
  obtain ⟨others, hwords⟩ : ∃ others, words (lower (trim text)) = marker.toList :: others := by
    have hfirst := Text.head?_words_append hne (List.all_eq_true.mp hink) hrest
    rw [← hlower] at hfirst
    exact List.head?_eq_some_iff.mp hfirst
  unfold hint?
  dsimp only
  rw [Text.trim_trim, hmark, if_pos (by decide), hwords]
  dsimp only
  rw [hfind]
  rfl

/-- A text that is not left to the rules for expenses records nothing. -/
theorem records_of_claimed {intent : Intent} (h : classify text today = .ok intent)
    (hclaimed : ¬ Unclaimed text) : intent.records = false := by
  unfold classify rules at h
  dsimp only at h
  cases hquestion : question? (lower (trim text)) with
  | some found =>
      rw [hquestion, Reading.orElse_some] at h
      injection h with h
      exact h ▸ records_question? hquestion
  | none =>
      rw [hquestion, Reading.orElse_none] at h
      cases hmanagement : management? (trim text) (lower (trim text)) with
      | error fault =>
          rw [hmanagement] at h
          exact nomatch h
      | ok found =>
          cases found with
          | none => exact absurd ⟨hquestion, hmanagement⟩ hclaimed
          | some found =>
              rw [hmanagement, Reading.orElse_some] at h
              injection h with h
              exact h ▸ records_management? hmanagement

/-- A text that is left to the rules for expenses is recorded when it names an amount, and unknown
when it names none. -/
theorem Unclaimed.cases {intent : Intent} (hleft : Unclaimed text)
    (h : classify text today = .ok intent) :
    (Amount.extract text = .ok none ∧ intent = .unknown (String.ofList (trim text))) ∨
      ((∃ amount, Amount.extract text = .ok (some amount)) ∧ intent.records = true) := by
  have hread := hleft.readBySegments h
  by_cases hnone : Amount.extract text = .ok none
  · obtain ⟨said, rfl⟩ := hread.unknown_iff.mpr hnone
    exact .inl ⟨hnone, congrArg Intent.unknown (hread.said said rfl)⟩
  · right
    by_cases hfew : (pricedSegments (trim text)).length < 2
    · obtain ⟨segment, e, -, rfl, -, hamount⟩ := hread.one hnone hfew
      exact ⟨⟨e.amount, hamount⟩, rfl⟩
    · obtain ⟨es, rfl⟩ := hread.addMany_iff.mpr (Nat.le_of_not_lt hfew)
      obtain ⟨-, hamount⟩ := hread.items es rfl
      cases es with
      | nil => exact absurd hamount hnone
      | cons e es => exact ⟨⟨e.amount, hamount⟩, rfl⟩

/-- Texts that name no amount record nothing. -/
theorem entriesOf_of_none {texts : List (List Char)} (h : Amount.firstIn texts = .ok none)
    (today : Date) :
    entriesOf today texts = .ok [] := by
  induction texts with
  | nil => rfl
  | cons text texts ih =>
      rw [Amount.firstIn] at h
      cases hfirst : Amount.extract text with
      | error fault =>
          rw [hfirst, Reading.orElse_error] at h
          cases h
      | ok found =>
          rw [hfirst] at h
          cases found with
          | some amount => cases h
          | none =>
              rw [entriesOf, readEntry, hfirst, ih h]
              rfl

/-- A text that is left to the rules for expenses and names no amount is unknown: no segment of it
names one, so it is neither a list nor an expense. -/
theorem Unclaimed.classify_of_none (hleft : Unclaimed text) (hnone : Amount.extract text = .ok none)
    (today : Date) : classify text today = .ok (.unknown (String.ofList (trim text))) := by
  rw [← Amount.extract_trim] at hnone
  have hmany : many? (trim text) today = .ok none := by
    have hparts := hnone
    rw [Amount.extract_eq_firstIn, ← Amount.firstIn_filter] at hparts
    unfold many?
    split
    · rw [entriesOf_of_none hparts today]
      rfl
    · rfl
  have hsingle : single? (trim text) today = .ok none := by
    rw [single?, readEntry, hnone]
    rfl
  rw [hleft.classify_eq, hmany, Reading.orElse_none, hsingle]

/-- What a text that begins with the marker of a management command is read as, and the hint that
there is for it.  A misused command, one that no rule before those for expenses reads, is unknown
when it names no amount.  What is recorded are the misused commands that name one, and no others. -/
theorem classify_of_marker {marker answer : String} (hmem : (marker, answer) ∈ hints)
    (hbegins : BeginsWith text marker) :
    hint? (trim text) = some answer ∧
    (Unclaimed text → Amount.extract text = .ok none →
      ∀ today, classify text today = .ok (.unknown (String.ofList (trim text)))) ∧
    ∀ today intent, classify text today = .ok intent →
      (intent.records = true ↔
        Unclaimed text ∧ ∃ amount, Amount.extract text = .ok (some amount)) := by
  refine ⟨hint?_of_beginsWith hmem hbegins, Unclaimed.classify_of_none,
    fun today intent h => ⟨?_, ?_⟩⟩
  · intro hrecords
    by_cases hleft : Unclaimed text
    · rcases hleft.cases h with ⟨-, rfl⟩ | ⟨hamount, -⟩
      · exact nomatch hrecords
      · exact ⟨hleft, hamount⟩
    · exact nomatch (records_of_claimed h hleft).symm.trans hrecords
  · rintro ⟨hleft, amount, hamount⟩
    rcases hleft.cases h with ⟨hnone, -⟩ | ⟨-, hrecords⟩
    · exact nomatch hamount.symm.trans hnone
    · exact hrecords

/-- A reminder for a day that no month has is unknown, and there is a hint for it. -/
theorem classify_of_marker_of_day :
    let text := " !Ingat Bayar listrik 45".toList
    let today : Date := ⟨2026, 10, 19, by decide⟩
    Unclaimed text ∧ classify text today = .ok (.unknown "!Ingat Bayar listrik 45") ∧
      hint? (trim text) =
        some "❌ Format: !ingat <nama> <tanggal 1-31>\n\nContoh: !ingat Bayar listrik 5" := by
  intro text today
  have hmem :
      ("!ingat", "❌ Format: !ingat <nama> <tanggal 1-31>\n\nContoh: !ingat Bayar listrik 5") ∈
      hints := by decide
  have hleft : Unclaimed text := ⟨by decide +kernel, by decide +kernel⟩
  have hnone : Amount.extract text = .ok none := by decide +kernel
  have hsaid : String.ofList (trim text) = "!Ingat Bayar listrik 45" := by decide +kernel
  have hbegins : BeginsWith text "!ingat" := by
    unfold BeginsWith
    decide +kernel
  obtain ⟨hhint, hread, -⟩ := classify_of_marker hmem hbegins
  rw [← hsaid]
  exact ⟨hleft, hread hleft hnone today, hhint⟩

/-- A removal that names an amount where its number should stand is recorded as an expense. -/
theorem classify_delete_of_amount :
    let text := "!hapus 25k".toList
    let today : Date := ⟨2026, 10, 19, by decide⟩
    "!hapus" ∈ hints.map Prod.fst ∧ (words text).head?.map lower = some "!hapus".toList ∧
      classify text today = .ok (.add ⟨"!hapus", 25000, "Lainnya", today⟩) := by
  decide +kernel

end Command

end BukuKas
