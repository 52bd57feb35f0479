import BukuKas.Proofs.Message.Asked
import BukuKas.Proofs.Message.Experience
import BukuKas.Proofs.Report.Workbook

/-!
# The recap and its workbook

The recap adds up its categories for its lines, and the workbook does so once more for its second
sheet.  Both go through the same entries, which have one ranking; so what is said agrees with what
is attached.

## Main results

* `Reply.of_run_recap` : what a recap attaches, and what it says of the categories.
* `workbook_of_recap` : the workbook of entries, and the recap that comes with it.
-/

namespace BukuKas

open Calendar (Date)
open Number (Binary64 roundedText)
open Report

namespace Reply

variable {plan : FaultPlan} {phone : String} {d after : Desk} {o : Occasion} {chat : Chat}
    {reply : Reply}

/-- The line of a recap about a category: its name, its sum, and the share of the sum. -/
def categoryLine (spent : Binary64) (sum : String × Binary64) : String :=
  "• " ++ sum.1 ++ ": " ++ Money.text sum.2 ++ " (" ++ roundedText (share sum.2 spent) ++ "%)"

/-- What is attached is what was made. -/
theorem of_attach {maker : Renderer} {filename name : String} {made : Except Fault Content}
    {content : Content}
    (h : attach o maker filename made = some ⟨name, content⟩) : made = .ok content := by
  unfold attach at h
  split at h
  · split at h
    · injection h with h
      injection h with hname hcontent
      rw [hcontent]
    · exact nomatch h
  · exact nomatch h

/-- A recap that attaches something attaches the workbook of its entries, and says of the categories
what the tally of these entries comes to. -/
theorem of_run_recap {attached : Attachment}
    (h : (recap o chat).run plan phone d = (.ok reply, after))
    (hattached : reply.attachment = some attached) :
    let span := reportSpan o (Ledger.activePeriod d.draft.ledger.periods chat.user)
    let entries := (Ledger.listExpenses d.draft.rows chat.user span.1 span.2).map Row.entry
    let tally := Tally.ofEntries entries
    (∃ sheets, attached.content = .workbook sheets ∧
      Workbook.build ("Rekap " ++ span.1.text ++ " - " ++ span.2.text) entries = .ok sheets) ∧
    ∃ front back, reply.text = some (joinLines (front ++
      (["", "Per kategori:"] ++ tally.rank.map (categoryLine tally.total) ++ [""]) ++ back)) := by
  intro span entries tally
  unfold recap at h
  obtain ⟨period, mid, hperiod, hmid, hrun⟩ := Work.ok_of_run_read rfl h
  obtain rfl : Ledger.activePeriod d.draft.ledger.periods chat.user = period :=
    Except.ok.inj hperiod
  obtain ⟨rows, _, hrows, -, hrun⟩ := Work.ok_of_run_read rfl hrun
  rw [hmid] at hrows
  obtain rfl : Ledger.listExpenses d.draft.rows chat.user span.1 span.2 = rows :=
    Except.ok.inj hrows
  obtain ⟨amounts, _, -, -, hrun⟩ := Work.ok_of_run_read rfl hrun
  obtain ⟨points, _, -, hrun⟩ := Work.ok_of_run_bind hrun
  obtain ⟨budget, _, -, hrun⟩ := Work.ok_of_run_bind hrun
  obtain rfl := Except.ok.inj (congrArg Prod.fst hrun)
  dsimp only at hattached
  split at hattached
  · exact nomatch hattached
  · rename_i hrows
    have hmade := of_attach hattached
    constructor
    · cases hbuild : Workbook.build ("Rekap " ++ span.1.text ++ " - " ++ span.2.text) entries with
      | error fault =>
          exact nomatch hmade.symm.trans (congrArg (Except.map Content.workbook) hbuild)
      | ok sheets =>
          exact ⟨sheets,
            Except.ok.inj (hmade.symm.trans (congrArg (Except.map Content.workbook) hbuild)), rfl⟩
    · have htally : tally.isEmpty = false := by
        have hempty : tally.isEmpty = entries.isEmpty := Tally.isEmpty_ofEntries entries
        rw [hempty, List.isEmpty_map]
        exact Bool.eq_false_iff.mpr hrows
      have hcategories : recapCategories tally tally.total =
          ["", "Per kategori:"] ++ tally.rank.map (categoryLine tally.total) := by
        rw [recapCategories, htally]
        rfl
      have hlines (front lines back rest : List String) :
          front ++ lines ++ "" :: back ++ rest = front ++ (lines ++ [""]) ++ (back ++ rest) := by
            simp
      rw [← hcategories]
      exact ⟨_, _, congrArg (fun lines => some (joinLines lines)) (hlines _ _ _ _)⟩

end Reply

namespace Message

variable {c : Circumstances} {plan : FaultPlan} {m : Message} {s : Service}

/-- A response to a reply that has an attachment carries all that the reply has. -/
theorem ofReply_of_attachment {reply : Reply} {attached : Attachment}
    (h : (Response.ofReply reply).attachment = some attached) :
    Response.ofReply reply = ⟨.ok, reply.text, reply.attachment⟩ := by
  unfold Response.ofReply at h ⊢
  split at h
  · rename_i htext
    rw [if_pos htext]
  · exact nomatch h

/-- Only what is answered with a success has an attachment. -/
theorem status_of_attachment {r : Response} {after : Desk} {attached : Attachment}
    (hcourse : Course c plan m s (.ok r) after) (h : r.attachment = some attached) :
    r.status = .ok := by
  cases hcourse with
  | answered hrequest hchat hread hrun hcommit => rw [ofReply_of_attachment h]
  | _ => exact nomatch h

end Message

/-- Entries whose amounts are not negative, as those of all expenses are, have one ranking of their
categories: each category once, with its amounts added in their order, the largest sum first and of
equal sums the one whose category comes first.  A workbook of these entries, their texts and the
title being ones that cells hold, lists the entries with the sum of the sums of their categories on
its first sheet, and shows the ranking on the second one.  A recap of these entries that attaches
anything attaches their workbook, whatever fails besides, and its lines about the categories are
those of the ranking. -/
theorem workbook_of_recap {entries : List Entry} (hamounts : ∀ e ∈ entries, 0 ≤ e.amount) :
    let total := Binary64.sum ((categoriesOf entries).map (spentOn entries))
    ∃ ranking, Ranks entries ranking ∧
      (∀ title, Cell.Holds title → (∀ e ∈ entries, Cell.Holds e.item ∧ Cell.Holds e.category) →
        ∃ first second, Workbook.build title entries = .ok [first, second] ∧
          Lists title entries total first ∧ ShowsSums ranking second) ∧
      ∀ (s : Service) (c : Circumstances) (plan : FaultPlan) (m : Message)
        (phone word : String) (chat : Chat) (today : Date) (r : Response) (attached : Attachment),
        s.chats.get? phone = some chat → (word, .recap) ∈ Command.wordCommands →
          m.Asks c today phone word →
        let span :=
          Reply.reportSpan (c.occasion today) (Ledger.activePeriod s.ledger.periods chat.user)
        (Ledger.listExpenses s.ledger.rows chat.user span.1 span.2).map Row.entry = entries →
        (m.handle c plan s).1 = .ok r → r.attachment = some attached →
        (∃ sheets, attached.content = .workbook sheets ∧
          Workbook.build ("Rekap " ++ span.1.text ++ " - " ++ span.2.text) entries = .ok sheets) ∧
        ∃ front back, r.reply = some (Reply.joinLines (front ++
          (["", "Per kategori:"] ++ ranking.map (Reply.categoryLine total) ++ [""]) ++ back)) := by
  intro total
  have htotal : (Tally.ofEntries entries).total = total := Tally.total_ofEntries entries
  refine ⟨_, Tally.ranks_ofEntries hamounts,
    fun title htitle htexts => Workbook.build_of_holds htitle htexts, ?_⟩
  intro s c plan m phone word chat today r attached hchat hword hasks span hentries hr hattached
  have hcourse := Message.course_of_handle c plan m s
  rw [hr] at hcourse
  obtain ⟨own, reply, d, hown, rfl, hrun, -⟩ :=
    Message.answered_of_intends (hasks.intends hword) hcourse
      (Message.status_of_attachment hcourse hattached)
  rw [hasks.sender] at hown hrun
  obtain rfl := Option.some.inj (hchat.symm.trans hown)
  have hreply := Message.ofReply_of_attachment hattached
  rw [hreply] at hattached ⊢
  obtain ⟨hbuilt, hlines⟩ := Reply.of_run_recap hrun hattached
  subst hentries
  rw [← htotal]
  exact ⟨hbuilt, hlines⟩

/-- Two categories on which as much was spent, and a recap of one expense. -/
theorem workbook_of_recap_of_tie :
    let today : Date := ⟨2026, 10, 19, by decide⟩
    let entries : List Entry := [⟨"Kopi", 10000, "Makanan", today⟩,
      ⟨"Bensin", 30000, "Transport", today⟩, ⟨"Sate", 20000, "Makanan", today⟩]
    let chat : Chat := { user := 1, email := "budi@gmail.com", name := "budi" }
    let s : Service := {
      ledger := {
        rows := [⟨1, 1, "Kopi", .hundredths 1000000, "Makanan", today, .expense, 1⟩]
        nextId := 2 }
      chats := Roster.empty.set "62" chat }
    let c : Circumstances := { settings := {}, now := ⟨1792378800⟩ }
    let m : Message := { sender := "62@c.us", text := some "!Rekap" }
    (∃ ranking first second, Ranks entries ranking ∧
      Workbook.build "Rekap" entries = .ok [first, second] ∧
      first.row? 8 = some [.empty, .empty, .text "Total", .whole 60000] ∧
      ShowsSums ranking second) ∧
    ∃ ranking r attached front back, Ranks [⟨"Kopi", 10000, "Makanan", today⟩] ranking ∧
      (m.handle c .none s).1 = .ok r ∧ r.attachment = some attached ∧
      r.reply = some (Reply.joinLines (front ++
        (["", "Per kategori:"] ++ ranking.map (Reply.categoryLine 10000) ++ [""]) ++ back)) := by
  intro today entries chat s c m
  obtain ⟨ranking, hranking, hworkbook, -⟩ := @workbook_of_recap entries (by decide +kernel)
  obtain ⟨first, second, hbuild, hfirst, hsecond⟩ :=
    hworkbook "Rekap" (by decide +kernel) (by decide +kernel)
  refine ⟨⟨ranking, first, second, hranking, hbuild, ?_, hsecond⟩, ?_⟩
  · rw [show 8 = entries.length + 5 from rfl, hfirst.total]
    decide +kernel
  · obtain ⟨ranking, hranking, -, hrecap⟩ :=
      @workbook_of_recap [⟨"Kopi", 10000, "Makanan", today⟩] (by decide +kernel)
    have hanswered : ∃ r attached, (m.handle c .none s).1 = .ok r ∧
        r.attachment = some attached := by
      have hsome : ((m.handle c .none s).1.toOption.bind Response.attachment).isSome = true := by
        decide +kernel
      cases hhandle : (m.handle c .none s).1 with
      | error fault => rw [hhandle] at hsome; exact nomatch hsome
      | ok r =>
          rw [hhandle] at hsome
          obtain ⟨attached, hattached⟩ := Option.isSome_iff_exists.mp hsome
          exact ⟨r, attached, rfl, hattached⟩
    obtain ⟨r, attached, hr, hattached⟩ := hanswered
    have hasks : m.Asks c today "62" "!rekap" :=
      ⟨by decide +kernel, by decide +kernel, by decide +kernel, by decide +kernel⟩
    obtain ⟨-, front, back, hlines⟩ := hrecap s c .none m "62" "!rekap" chat today r attached rfl
      (by decide +kernel) hasks (by decide +kernel) hr hattached
    refine ⟨ranking, r, attached, front, back, hranking, hr, hattached, hlines.trans ?_⟩
    rw [show Binary64.sum _ = (10000 : Binary64) by decide +kernel]

end BukuKas
