import BukuKas.Proofs.Authorship
import BukuKas.Proofs.Sender
import BukuKas.Proofs.Session.Replay

/-!
# Messages from one phone

The gateway may write the sender of a message in many ways.  What a message comes to depends on the
sender only through the phone and through whether the sender is a group, so all spellings of a phone
are let in together, have one chat, and get the same answers; and a message from another phone
leaves this chat alone.

## Main results

* `handle_of_same_phone` : how the sender is written makes no difference.
* `one_phone_of_spellings` : the spellings of a phone against the list of the phones that are let
  in, and against each other.
-/

namespace BukuKas

open Sender (IsDigits LetsIn Spelling)

namespace Message

variable {m : Message}

/-- A message from another sender. -/
def sentBy (m : Message) (sender : String) : Message := { m with sender := sender }

/-- How the sender is written makes no difference, as long as the phone is the same and so is
whether the sender is a group. -/
theorem handle_of_same_phone {sender other : String}
    (hphone : Sender.phone sender = Sender.phone other)
    (hgroup : Sender.isGroup sender = Sender.isGroup other) (c : Circumstances) (plan : FaultPlan)
    (s : Service) : (m.sentBy sender).handle c plan s = (m.sentBy other).handle c plan s := by
  have hphones : (m.sentBy sender).phone = (m.sentBy other).phone := hphone
  have hrequest : (m.sentBy sender).request c = (m.sentBy other).request c := by
    have hheard : (m.sentBy sender).isHeard c.settings = (m.sentBy other).isHeard c.settings := by
      show (m.kind.isText && !Sender.isGroup sender && c.settings.admits (Sender.phone sender) &&
        !m.trimmed.isEmpty) = _
      rw [hphone, hgroup]
      rfl
    unfold request words?
    rw [hheard]
    rfl
  rw [handle_eq, handle_eq, hphones, hrequest]

end Message

/-- Digits that are written as a sender, with any white space around them, any number of plus signs
before them and any server behind them, are let in by a list exactly when nothing is left of any
entry of the list, or one of its entries is these digits with any white space around them and any
number of plus signs.  So a text from such a sender that is no group is listened to exactly then.
All these senders share one chat, and whatever a message from one of them that is no group comes to,
it comes to from any other.  A sender with other digits is another phone, and what comes from it
does not touch the chat. -/
theorem one_phone_of_spellings {digits : List Char} (hne : digits ≠ [])
    (hdigits : IsDigits digits) :
    (∀ (a : Spelling) (list : String),
      Sender.admits list (Sender.phone (a.sender digits)) = true ↔ LetsIn list digits) ∧
    (∀ (a : Spelling) (m : Message) (settings : Settings), ¬a.OfGroup →
      ((m.sentBy (a.sender digits)).isHeard settings = true ↔
        (m.kind = .text ∨ m.kind = .chat) ∧ LetsIn settings.allowedPhones digits ∧
          ∃ char ∈ (m.text.getD "").toList, Text.isBlank char = false)) ∧
    (∀ (a b : Spelling) (m : Message),
      (m.sentBy (a.sender digits)).phone = (m.sentBy (b.sender digits)).phone ∧
        (¬a.OfGroup → ¬b.OfGroup → ∀ (c : Circumstances) (plan : FaultPlan) (s : Service),
          (m.sentBy (a.sender digits)).handle c plan s =
            (m.sentBy (b.sender digits)).handle c plan s)) ∧
    ∀ other : List Char, IsDigits other → other ≠ digits →
      ∀ (a b : Spelling) (m : Message) (c : Circumstances) (plan : FaultPlan) (s : Service),
        Sender.phone (b.sender other) ≠ Sender.phone (a.sender digits) ∧
          ((m.sentBy (b.sender other)).handle c plan s).2.service.chats.get?
              (Sender.phone (a.sender digits)) =
            s.chats.get? (Sender.phone (a.sender digits)) := by
  have hnoGroup (a : Spelling) (ha : ¬a.OfGroup) : Sender.isGroup (a.sender digits) = false :=
    Bool.eq_false_iff.mpr (mt (a.isGroup_sender_iff hdigits).mp ha)
  refine ⟨fun a list => a.admits_sender_iff hne hdigits, fun a m settings ha => ?_,
    fun a b m => ?_, fun other hother hdiffer a b m c plan s => ?_⟩
  · have hlisted : (Sender.allowed settings.allowedPhones = [] ∨
        (m.sentBy (a.sender digits)).phone ∈ Sender.allowed settings.allowedPhones) ↔
          LetsIn settings.allowedPhones digits := by
      rw [← a.admits_sender_iff hne hdigits, Sender.admits, Bool.or_eq_true, List.isEmpty_iff,
        List.contains_iff_mem]
      rfl
    rw [Message.isHeard_iff, hlisted]
    show _ ∧ Sender.isGroup (a.sender digits) = false ∧ _ ↔ _
    rw [hnoGroup a ha]
    simp only [true_and]
    rfl
  · have hphone : Sender.phone (a.sender digits) = Sender.phone (b.sender digits) :=
      (a.phone_sender hdigits).trans (b.phone_sender hdigits).symm
    refine ⟨hphone, fun ha hb => ?_⟩
    exact Message.handle_of_same_phone hphone ((hnoGroup a ha).trans (hnoGroup b hb).symm)
  · have hphones : Sender.phone (b.sender other) ≠ Sender.phone (a.sender digits) := by
      rw [a.phone_sender hdigits, b.phone_sender hother]
      exact fun hsame => hdiffer (String.ofList_inj.mp hsame)
    have hsent : (m.sentBy (b.sender other)).phone ≠ Sender.phone (a.sender digits) := hphones
    exact ⟨hphones, Message.get?_of_course hsent (Message.course_of_handle c plan _ s)⟩

/-- The list has the phone between other entries, with plus signs and white space; two messages come
from it, written differently, and one from a phone with one digit more. -/
theorem one_phone_of_spellings_of_owner :
    let digits := "628111".toList
    let list := "62, ++628111\t,x"
    let m : Message := { sender := "", text := some "kopi 20k" }
    let settings : Settings := { allowedPhones := list }
    digits ≠ [] ∧ IsDigits digits ∧ Sender.admits list (Sender.phone " +628111@c.us\n") = true ∧
      (m.sentBy "628111@s.whatsapp.net ").isHeard settings = true ∧
      (∀ (c : Circumstances) (plan : FaultPlan) (s : Service),
        (m.sentBy " +628111@c.us\n").handle c plan s =
          (m.sentBy "628111@s.whatsapp.net ").handle c plan s) ∧
      ∀ (c : Circumstances) (plan : FaultPlan) (s : Service),
        ((m.sentBy "6281110").handle c plan s).2.service.chats.get? "628111" =
          s.chats.get? "628111" := by
  intro digits list m settings
  let first : Spelling :=
    ⟨⟨[' '], 1, ['\n'], List.all_eq_true.mp (by decide), List.all_eq_true.mp (by decide)⟩,
      some "c.us".toList⟩
  let second : Spelling :=
    ⟨⟨[], 0, [' '], nofun, List.all_eq_true.mp (by decide)⟩, some "s.whatsapp.net".toList⟩
  let plain : Spelling := ⟨⟨[], 0, [], nofun, nofun⟩, none⟩
  let entry : Sender.Ornaments :=
    ⟨[' '], 2, ['\t'], List.all_eq_true.mp (by decide), List.all_eq_true.mp (by decide)⟩
  have hdigits : IsDigits digits := by decide
  have hfirst : first.sender digits = " +628111@c.us\n" := by decide
  have hsecond : second.sender digits = "628111@s.whatsapp.net " := by decide
  have hplain : plain.sender "6281110".toList = "6281110" := by decide
  have hlisted : LetsIn list digits :=
    .inr ⟨" ++628111\t".toList, ⟨by decide, ["62".toList], ["x".toList], by decide⟩,
      entry, by decide⟩
  obtain ⟨hadmits, hheard, hshared, hother⟩ := one_phone_of_spellings (by decide) hdigits
  rw [← hfirst, ← hsecond, ← hplain]
  refine ⟨by decide, hdigits, (hadmits first list).mpr hlisted, ?_, fun c plan s => ?_,
    fun c plan s => ?_⟩
  · exact (hheard second m settings (by decide)).mpr ⟨.inr rfl, hlisted, 'k', by decide, by decide⟩
  · exact (hshared first second m).2 (by decide) (by decide) c plan s
  · have hphone : Sender.phone (plain.sender digits) = "628111" := by decide
    rw [← hphone]
    exact (hother "6281110".toList (by decide) (by decide) plain plain m c plan s).2

end BukuKas
