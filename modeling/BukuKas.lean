import BukuKas.About
import BukuKas.Alert
import BukuKas.Amount
import BukuKas.Calendar.Date
import BukuKas.Calendar.Instant
import BukuKas.Calendar.Iso
import BukuKas.Calendar.Month
import BukuKas.Calendar.Timestamp
import BukuKas.Calendar.Zone
import BukuKas.Category
import BukuKas.Command
import BukuKas.Fault
import BukuKas.Gateway
import BukuKas.History
import BukuKas.Http.Address
import BukuKas.Http.Host
import BukuKas.Http.Path
import BukuKas.Http.Percent
import BukuKas.Http.Server
import BukuKas.Intent
import BukuKas.Job
import BukuKas.Json.Reader
import BukuKas.Json.Value
import BukuKas.Label
import BukuKas.Ledger.Cash
import BukuKas.Ledger.Query
import BukuKas.Ledger.Store
import BukuKas.Ledger.View
import BukuKas.Message.Account
import BukuKas.Message.Basic
import BukuKas.Message.Handling
import BukuKas.Message.Payload
import BukuKas.Message.Race
import BukuKas.Money
import BukuKas.Number.Binary64
import BukuKas.Number.Decimal
import BukuKas.Number.Nearest
import BukuKas.Number.Numeral
import BukuKas.Number.Power
import BukuKas.Number.Significant
import BukuKas.Period
import BukuKas.Proofs.Amount.Cut
import BukuKas.Proofs.Amount.Spelled
import BukuKas.Proofs.Authorship
import BukuKas.Proofs.Calendar.Count
import BukuKas.Proofs.Calendar.Local
import BukuKas.Proofs.Calendar.Month
import BukuKas.Proofs.Calendar.Reading
import BukuKas.Proofs.Calendar.Span
import BukuKas.Proofs.Category
import BukuKas.Proofs.Command.Edge
import BukuKas.Proofs.Command.Entry
import BukuKas.Proofs.Command.Folded
import BukuKas.Proofs.Command.Label
import BukuKas.Proofs.Command.Legible
import BukuKas.Proofs.Command.Listing
import BukuKas.Proofs.Command.Marker
import BukuKas.Proofs.Command.Numbered
import BukuKas.Proofs.Command.Reading
import BukuKas.Proofs.Command.Reminder
import BukuKas.Proofs.Command.Segment
import BukuKas.Proofs.Command.Tag
import BukuKas.Proofs.Command.Tagged
import BukuKas.Proofs.Job
import BukuKas.Proofs.Job.Isolation
import BukuKas.Proofs.Job.Month
import BukuKas.Proofs.Ledger.Agreement
import BukuKas.Proofs.Ledger.Cash
import BukuKas.Proofs.Ledger.Grouping
import BukuKas.Proofs.Ledger.Listing
import BukuKas.Proofs.Ledger.Order
import BukuKas.Proofs.Ledger.Sound
import BukuKas.Proofs.Ledger.WellFormed
import BukuKas.Proofs.Message.Asked
import BukuKas.Proofs.Message.Atomic
import BukuKas.Proofs.Message.Batch
import BukuKas.Proofs.Message.Challenge
import BukuKas.Proofs.Message.Comparison
import BukuKas.Proofs.Message.Course
import BukuKas.Proofs.Message.Day
import BukuKas.Proofs.Message.Effect
import BukuKas.Proofs.Message.Experience
import BukuKas.Proofs.Message.Level
import BukuKas.Proofs.Message.Meaning
import BukuKas.Proofs.Message.Numbered
import BukuKas.Proofs.Message.Prediction
import BukuKas.Proofs.Message.Recap
import BukuKas.Proofs.Message.Response
import BukuKas.Proofs.Message.Spelling
import BukuKas.Proofs.Message.Spoken
import BukuKas.Proofs.Message.Success
import BukuKas.Proofs.Message.Tenancy
import BukuKas.Proofs.Message.Warning
import BukuKas.Proofs.Message.Week
import BukuKas.Proofs.Moment
import BukuKas.Proofs.Money
import BukuKas.Proofs.Number.Decimal
import BukuKas.Proofs.Number.Finite
import BukuKas.Proofs.Number.Monotone
import BukuKas.Proofs.Number.Order
import BukuKas.Proofs.Number.Rounding
import BukuKas.Proofs.Number.Size
import BukuKas.Proofs.Period
import BukuKas.Proofs.Renumbering.Event
import BukuKas.Proofs.Renumbering.History
import BukuKas.Proofs.Renumbering.Ledger
import BukuKas.Proofs.Renumbering.Reply
import BukuKas.Proofs.Renumbering.Work
import BukuKas.Proofs.Reply.Effect
import BukuKas.Proofs.Reply.Recording
import BukuKas.Proofs.Reply.Rule
import BukuKas.Proofs.Reply.Success
import BukuKas.Proofs.Reply.Warning
import BukuKas.Proofs.Report.Tally
import BukuKas.Proofs.Report.Workbook
import BukuKas.Proofs.Roster
import BukuKas.Proofs.Score.Defined
import BukuKas.Proofs.Score.Kept
import BukuKas.Proofs.Score.Level
import BukuKas.Proofs.Sender
import BukuKas.Proofs.Session.Checkpoint
import BukuKas.Proofs.Session.Heap
import BukuKas.Proofs.Session.Lock
import BukuKas.Proofs.Session.Replay
import BukuKas.Proofs.Session.Tenure
import BukuKas.Proofs.Text.Cut
import BukuKas.Proofs.Text.Digits
import BukuKas.Proofs.Text.Edge
import BukuKas.Proofs.Text.Part
import BukuKas.Proofs.Text.Small
import BukuKas.Proofs.Text.Upper
import BukuKas.Proofs.Text.Word
import BukuKas.Proofs.Undo.Exact
import BukuKas.Proofs.Undo.Reference
import BukuKas.Proofs.Work.Frame
import BukuKas.Proofs.Work.Rule
import BukuKas.Proofs.Work.Success
import BukuKas.Proofs.Work.Tenancy
import BukuKas.Reply.Answer
import BukuKas.Reply.Basic
import BukuKas.Reply.Question
import BukuKas.Reply.Recording
import BukuKas.Reply.Reminder
import BukuKas.Reply.Text
import BukuKas.Report.Attachment
import BukuKas.Report.Chart
import BukuKas.Report.Page
import BukuKas.Report.Tally
import BukuKas.Report.Workbook
import BukuKas.Roster
import BukuKas.Schema.Migration
import BukuKas.Schema.Table
import BukuKas.Score.Challenge
import BukuKas.Score.Experience
import BukuKas.Score.Pace
import BukuKas.Sender
import BukuKas.Session.Chat
import BukuKas.Session.Heap
import BukuKas.Session.Lock
import BukuKas.Session.Registry
import BukuKas.Settings
import BukuKas.Settings.Given
import BukuKas.Text.Blank
import BukuKas.Text.Case
import BukuKas.Text.CaseSpans
import BukuKas.Text.Digit
import BukuKas.Text.HiddenSpans
import BukuKas.Text.Loose
import BukuKas.Text.Piece
import BukuKas.Text.Punycode
import BukuKas.Text.Quoted
import BukuKas.Text.Utf8
import BukuKas.Text.Width
import BukuKas.Text.Word
import BukuKas.Text.WordSpans
import BukuKas.Work
