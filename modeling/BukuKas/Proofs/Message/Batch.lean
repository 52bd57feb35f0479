import BukuKas.History
import BukuKas.Proofs.Command.Segment
import BukuKas.Proofs.Reply.Recording

/-!
# Many expenses at once

A list of expenses comes to the same as its segments that name an amount, sent one after the other.
Both ways record the same entries in the same order, each under the number that is next.  When the
points of the user cannot be told, the list is refused as a whole and each segment alone; then only
the counter has gone on, by as many numbers either way.

## Main results

* `handle_add`, `handle_addMany` : what a recording comes to.
* `run_of_scored`, `run_of_unscored` : what recordings one after the other come to.
* `run_segments` : a list of expenses and its segments come to the same.
-/

namespace BukuKas

open Calendar (Date)
open Reply (Concludes experienceText recorded recordedAll)
open Text (lower trim)

/-- The service with a counter that has gone on. -/
def Service.counted (s : Service) (n : Int) : Service :=
  { s with ledger := { s.ledger with nextId := n } }

namespace Message

variable {c : Circumstances} {m : Message} {s : Service} {today : Date}
    {phone : String} {chat : Chat}
variable {intent : Intent} {next last : Standing} {e : Entry} {es : List Entry}

/-! ## One message -/

/-- A recording is answered and committed if all points of the user can be told, and refused
otherwise. -/
theorem handle_of_concludes (h : m.Intends c today intent)
    (hchat : s.chats.get? m.phone = some chat)
    (hafter : (s.standing chat).after today intent = some last)
    {finish : String → List String → Reply} {earned : Int}
    (hconcludes : Concludes s.chats m.phone last finish earned
      ((Reply.answer (c.occasion today) (some chat) intent).run .none m.phone s.desk)) :
    (last.Scored → (∃ points warning,
        (m.handle c .none s).1 = .ok (.ofReply (finish (experienceText earned points) warning))) ∧
      (m.handle c .none s).2.service = s.settled m.phone last) ∧
    (¬last.Scored → (m.handle c .none s).1 = .ok (.failed Reply.failure) ∧
      (m.handle c .none s).2.service = s.counted last.next) := by
  rcases hrun : (Reply.answer (c.occasion today) (some chat) intent).run .none m.phone s.desk with
    ⟨result, d⟩
  rw [hrun] at hconcludes
  constructor
  · intro hscored
    obtain ⟨points, warning, hresult⟩ := hconcludes.told hscored
    obtain rfl : result = _ := hresult
    obtain ⟨hresponse, other, hother, hservice⟩ := handle_of_answered h.request hchat h.read hrun
    obtain rfl := Option.some.inj (hafter.symm.trans hother)
    exact ⟨⟨points, warning, hresponse⟩, hservice⟩
  · intro hscored
    obtain ⟨fault, hresult⟩ := hconcludes.untold hscored
    obtain rfl : result = _ := hresult
    obtain ⟨hresponse, hservice⟩ := handle_of_refused h.request hchat h.read hrun
    refine ⟨hresponse, hservice.trans ?_⟩
    rw [hconcludes.shows.next]
    rfl

/-- What the recording of one expense comes to. -/
theorem handle_add (h : m.Intends c today (.add e)) (hchat : s.chats.get? m.phone = some chat)
    (hrecord : (s.standing chat).record e = some next) (hfinite : e.amount.isFinite = true) :
    ((s.standing chat).Scored → (∃ points warning, (m.handle c .none s).1 =
        .ok (.ofReply (recorded e (experienceText e.gain points) warning))) ∧
      (m.handle c .none s).2.service = s.settled m.phone next) ∧
    (¬(s.standing chat).Scored → (m.handle c .none s).1 = .ok (.failed Reply.failure) ∧
      (m.handle c .none s).2.service = s.counted (s.ledger.nextId + 1)) := by
  have hhandle := handle_of_concludes h hchat hrecord
    (Reply.concludes_add (Service.shows_desk hchat) hrecord hfinite)
  rw [Standing.scored_record_iff hrecord, Standing.next_record hrecord] at hhandle
  exact hhandle

/-- What the recording of a list of expenses comes to. -/
theorem handle_addMany (h : m.Intends c today (.addMany es))
    (hchat : s.chats.get? m.phone = some chat)
    (hrecord : (s.standing chat).recordAll es = some last)
    (hfinite : ∀ e ∈ es, e.amount.isFinite = true) :
    ((s.standing chat).Scored → (∃ points warning, (m.handle c .none s).1 =
        .ok (.ofReply (recordedAll es (experienceText (es.map Entry.gain).sum points) warning))) ∧
      (m.handle c .none s).2.service = s.settled m.phone last) ∧
    (¬(s.standing chat).Scored → (m.handle c .none s).1 = .ok (.failed Reply.failure) ∧
      (m.handle c .none s).2.service = s.counted (s.ledger.nextId + es.length)) := by
  have hhandle := handle_of_concludes h hchat hrecord
    (Reply.concludes_addMany (Service.shows_desk hchat) hrecord hfinite)
  rw [Standing.scored_recordAll_iff hrecord, Standing.next_recordAll hrecord] at hhandle
  exact hhandle

/-! ## One message after the other -/

/-- The message comes from the phone, and records the entry. -/
def RecordsFrom (c : Circumstances) (today : Date) (phone : String) (m : Message) (e : Entry) :
    Prop :=
  m.phone = phone ∧ m.Intends c today (.add e)

/-- The recording of the entry was answered, and the points that it earned were told. -/
def Told (e : Entry) (encounter : Encounter) : Prop :=
  ∃ points warning, encounter =
    .response (.ok (.ofReply (recorded e (experienceText e.gain points) warning)))

/-- Where all points can be told, recordings one after the other do what they do together. -/
theorem run_of_scored {ms : List Message} (h : List.Forall₂ (RecordsFrom c today phone) ms es)
    (hchat : s.chats.get? phone = some chat) (hrecord : (s.standing chat).recordAll es = some last)
    (hfinite : ∀ e ∈ es, e.amount.isFinite = true) (hscored : (s.standing chat).Scored) :
    List.Forall₂ Told es (History.run (ms.map (.message c .none)) s).1 ∧
      (History.run (ms.map (.message c .none)) s).2 = s.settled phone last := by
  induction h generalizing s chat with
  | nil =>
      obtain rfl := Option.some.inj hrecord
      exact ⟨.nil, (Service.settled_standing hchat).symm⟩
  | @cons m e ms es hfirst hrest ih =>
      obtain ⟨rfl, hintends⟩ := hfirst
      obtain ⟨first, hone, hothers⟩ := Option.bind_eq_some_iff.mp hrecord
      obtain ⟨hfinite, hfinites⟩ := List.forall_mem_cons.mp hfinite
      obtain ⟨⟨points, warning, hresponse⟩, hservice⟩ :=
        (handle_add hintends hchat hone hfinite).1 hscored
      -- the others start from the service that stands where the first recording leads
      obtain ⟨htold, hafter⟩ := ih (s.get?_settled m.phone first) hothers hfinites
        ((Standing.scored_record_iff hone).mpr hscored)
      rw [Service.settled_settled, ← hservice] at hafter
      rw [← hservice] at htold
      exact ⟨.cons ⟨points, warning, congrArg Encounter.response hresponse⟩ htold, hafter⟩

/-- Where the points cannot be told, each recording is refused, and uses up a number. -/
theorem run_of_unscored {ms : List Message} (h : List.Forall₂ (RecordsFrom c today phone) ms es)
    (hchat : s.chats.get? phone = some chat)
    (hkept : ∀ e ∈ es, e.amount.isFinite = true ∧ ∃ amount, Cash.ofDouble? e.amount = some amount)
    (hscored : ¬(s.standing chat).Scored) :
    (∀ encounter ∈ (History.run (ms.map (.message c .none)) s).1,
        encounter = .response (.ok (.failed Reply.failure))) ∧
      (History.run (ms.map (.message c .none)) s).2 = s.counted (s.ledger.nextId + es.length) := by
  induction h generalizing s with
  | nil =>
      refine ⟨List.forall_mem_nil _, ?_⟩
      show s = s.counted (s.ledger.nextId + 0)
      rw [Int.add_zero]
      rfl
  | @cons m e ms es hfirst hrest ih =>
      obtain ⟨rfl, hintends⟩ := hfirst
      obtain ⟨⟨hfinite, amount, hamount⟩, hothers⟩ := List.forall_mem_cons.mp hkept
      have hrecord : (s.standing chat).record e = some _ :=
        Option.map_eq_some_iff.mpr ⟨amount, hamount, rfl⟩
      obtain ⟨hresponse, hservice⟩ := (handle_add hintends hchat hrecord hfinite).2 hscored
      -- rows and chats are as before, so the others are refused for the same reason
      have hlater := @ih (s.counted (s.ledger.nextId + 1)) hchat hothers hscored
      rw [← hservice] at hlater
      obtain ⟨hfailed, hafter⟩ := hlater
      refine ⟨List.forall_mem_cons.mpr ⟨congrArg Encounter.response hresponse, hfailed⟩, ?_⟩
      refine hafter.trans ?_
      rw [hservice, List.length_cons]
      show s.counted (s.ledger.nextId + 1 + es.length) = _
      congr 1
      omega

/-! ## Segments -/

/-- The message with another text. -/
def saying (m : Message) (text : List Char) : Message :=
  { m with text := some (String.ofList text) }

@[simp] theorem trimmed_saying (m : Message) (text : List Char) :
    (m.saying text).trimmed = trim text := by
  show trim (String.ofList text).toList = trim text
  rw [String.toList_ofList]

theorem named_of_mem {raw segment : List Char} (h : segment ∈ Command.pricedSegments raw) :
    Amount.isNamedIn (trim segment) = true := (List.mem_filter.mp h).2

/-- A segment that names an amount is listened to where the whole text is. -/
theorem isHeard_saying {segment : List Char} (h : segment ∈ Command.pricedSegments m.trimmed)
    (settings : Settings) : (m.saying segment).isHeard settings = m.isHeard settings := by
  have hwhole : m.trimmed ≠ [] := by
    intro hblank
    rw [hblank] at h
    exact nomatch h
  have hpart : trim segment ≠ [] := by
    intro hblank
    have hnamed := named_of_mem h
    rw [hblank] at hnamed
    exact nomatch hnamed
  unfold isHeard
  rw [trimmed_saying, List.isEmpty_eq_false_iff.mpr hwhole, List.isEmpty_eq_false_iff.mpr hpart]
  rfl

/-- A list of expenses is said in a chat, unless it is a login. -/
theorem intends_of_list (hheard : m.isHeard c.settings = true)
    (hdate : c.localDate m.sentAt = .ok today)
    (hread : Command.classify m.trimmed today = .ok (.addMany es))
    (hlogin : Account.isLogin (lower m.trimmed) = false) : m.Intends c today (.addMany es) := by
  refine ⟨?_, hread⟩
  have hcomma : ',' ∈ m.trimmed :=
    (Text.trim_infix m.trimmed).subset (Command.forall₂_of_classify hread).1
  rw [request_of_isHeard hheard hdate]
  rw [ofText_of_mem hcomma (by decide +kernel) hlogin (by decide +kernel) (by decide +kernel)]

/-- A segment that is read as one expense is said in a chat, unless it is a login. -/
theorem intends_of_segment {segment : List Char}
    (hheard : (m.saying segment).isHeard c.settings = true)
    (hdate : c.localDate m.sentAt = .ok today) (hnamed : Amount.isNamedIn (trim segment) = true)
    (hread : Command.classify segment today = .ok (.add e))
    (hlogin : Account.isLogin (lower (trim segment)) = false) :
    (m.saying segment).Intends c today (.add e) := by
  obtain ⟨d, hmem, hdigit⟩ := Amount.exists_digit hnamed
  refine ⟨?_, ?_⟩
  · rw [request_of_isHeard hheard hdate, trimmed_saying, ofText_of_digit hmem hdigit hlogin]
  · rw [trimmed_saying, Command.classify_trim]
    exact hread

/-- The segments of a list that name an amount record its entries, one a segment. -/
theorem recordsFrom_segments (hheard : m.isHeard c.settings = true)
    (hdate : c.localDate m.sentAt = .ok today)
    (hread : Command.classify m.trimmed today = .ok (.addMany es))
    (hsegments : ∀ segment ∈ Command.pricedSegments m.trimmed,
      (∃ e, Command.classify segment today = .ok (.add e)) ∧
        Account.isLogin (lower (trim segment)) = false) :
    List.Forall₂ (RecordsFrom c today m.phone)
    ((Command.pricedSegments m.trimmed).map m.saying) es := by
  have hsaid : ∀ segment ∈ Command.pricedSegments m.trimmed, ∀ e,
      Command.readEntry (trim segment) today = .ok (some e) →
        RecordsFrom c today m.phone (m.saying segment) e := by
    intro segment hsegment e he
    obtain ⟨⟨found, hfound⟩, hlogin⟩ := hsegments segment hsegment
    have hsame := he.symm.trans (Command.readEntry_of_classify hfound)
    obtain rfl : e = found := Option.some.inj (Except.ok.inj hsame)
    exact ⟨rfl, intends_of_segment ((isHeard_saying hsegment c.settings).trans hheard) hdate
      (named_of_mem hsegment) hfound hlogin⟩
  have hentries := (Command.forall₂_of_classify hread).2
  have htrim : trim m.trimmed = m.trimmed := Text.trim_trim _
  rw [htrim] at hentries
  rw [List.forall₂_map_left_iff]
  exact ((List.forall₂_and_left _ _).mpr ⟨hsaid, hentries⟩).imp fun segment e h => h.1 e h.2

/-- Messages that are not listened to change nothing. -/
theorem run_of_unheard {ms : List Message} (h : ∀ m ∈ ms, m.isHeard c.settings = false)
    (s : Service) :
    (History.run (ms.map (.message c .none)) s).2 = s := by
  induction ms generalizing s with
  | nil => rfl
  | cons m ms ih =>
      obtain ⟨hfirst, hothers⟩ := List.forall_mem_cons.mp h
      have hhandle : (m.handle c .none s).2.service = s := by
        rw [handle_eq, request_eq_none_iff.mpr hfirst]
        rfl
      show (History.run (ms.map (.message c .none)) (m.handle c .none s).2.service).2 = s
      rw [hhandle]
      exact ih hothers s

end Message

end BukuKas
