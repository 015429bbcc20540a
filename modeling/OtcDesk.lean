import OtcDesk.Attempt
import OtcDesk.Backend.Basic
import OtcDesk.Backend.Practice
import OtcDesk.Backend.Remote
import OtcDesk.Bytes.Base64
import OtcDesk.Bytes.Hex
import OtcDesk.Bytes.Utf8
import OtcDesk.Calendar
import OtcDesk.Clock
import OtcDesk.CommandLine.Command
import OtcDesk.CommandLine.Options
import OtcDesk.CommandLine.Shell
import OtcDesk.Config
import OtcDesk.Config.Path
import OtcDesk.Crypto.Aes
import OtcDesk.Crypto.Ed25519
import OtcDesk.Crypto.Gcm
import OtcDesk.Crypto.Sha512
import OtcDesk.Desk
import OtcDesk.DeskError
import OtcDesk.Entropy
import OtcDesk.Fault
import OtcDesk.Gateway
import OtcDesk.Intent
import OtcDesk.Json.Body
import OtcDesk.Json.Equality
import OtcDesk.Json.Field
import OtcDesk.Json.Reader
import OtcDesk.Json.Text
import OtcDesk.Json.Value
import OtcDesk.Json.Writer
import OtcDesk.Login
import OtcDesk.Main
import OtcDesk.Number.Double
import OtcDesk.Number.Reader
import OtcDesk.Number.Shortest
import OtcDesk.Proofs.Backend.Challenges
import OtcDesk.Proofs.Backend.Outcome
import OtcDesk.Proofs.Backend.Owners
import OtcDesk.Proofs.Backend.Practice
import OtcDesk.Proofs.Backend.PracticeCalls
import OtcDesk.Proofs.Backend.Refusals
import OtcDesk.Proofs.Backend.Remote
import OtcDesk.Proofs.Backend.Requests
import OtcDesk.Proofs.Bytes.Base64
import OtcDesk.Proofs.Bytes.Hex
import OtcDesk.Proofs.Bytes.HexPairs
import OtcDesk.Proofs.Bytes.Utf8
import OtcDesk.Proofs.Calendar
import OtcDesk.Proofs.Calendar.DayCount
import OtcDesk.Proofs.CommandLine.Arguments
import OtcDesk.Proofs.CommandLine.Following
import OtcDesk.Proofs.CommandLine.Narration
import OtcDesk.Proofs.CommandLine.Sides
import OtcDesk.Proofs.CommandLine.StatusLines
import OtcDesk.Proofs.CommandLine.Submitting
import OtcDesk.Proofs.Desk.Requests
import OtcDesk.Proofs.Desk.Submission
import OtcDesk.Proofs.Desk.TradeGate
import OtcDesk.Proofs.Desk.Traffic
import OtcDesk.Proofs.Except
import OtcDesk.Proofs.Json.Body
import OtcDesk.Proofs.Json.Bounds
import OtcDesk.Proofs.Json.Depth
import OtcDesk.Proofs.Json.Encoding
import OtcDesk.Proofs.Json.Faithful
import OtcDesk.Proofs.Json.Numbers
import OtcDesk.Proofs.Json.Objects
import OtcDesk.Proofs.Json.RoundTrip
import OtcDesk.Proofs.Json.Strings
import OtcDesk.Proofs.Json.Text
import OtcDesk.Proofs.Login.Agreement
import OtcDesk.Proofs.Login.Attempts
import OtcDesk.Proofs.Login.Course
import OtcDesk.Proofs.Login.Departure
import OtcDesk.Proofs.Login.Gates
import OtcDesk.Proofs.Login.Interleaving
import OtcDesk.Proofs.Login.Requests
import OtcDesk.Proofs.Login.Restart
import OtcDesk.Proofs.Login.Restoration
import OtcDesk.Proofs.Login.Settling
import OtcDesk.Proofs.Login.Switching
import OtcDesk.Proofs.Login.Tokenless
import OtcDesk.Proofs.Login.Verification
import OtcDesk.Proofs.Number.Double
import OtcDesk.Proofs.Record.Reading
import OtcDesk.Proofs.Report.StatusLine
import OtcDesk.Proofs.Report.Timeline
import OtcDesk.Proofs.Report.Timestamps
import OtcDesk.Proofs.Role
import OtcDesk.Proofs.Sealing.Canonical
import OtcDesk.Proofs.Sealing.Coverage
import OtcDesk.Proofs.Sealing.Freshness
import OtcDesk.Proofs.Sealing.Genuine
import OtcDesk.Proofs.Sealing.KeyText
import OtcDesk.Proofs.Sealing.Opening
import OtcDesk.Proofs.Sealing.Signing
import OtcDesk.Proofs.Session.Content
import OtcDesk.Proofs.Session.History
import OtcDesk.Proofs.Session.Reading
import OtcDesk.Proofs.Session.Refinement
import OtcDesk.Proofs.Session.Slots
import OtcDesk.Proofs.Session.Store
import OtcDesk.Proofs.Table
import OtcDesk.Proofs.Text.Blank
import OtcDesk.Proofs.Text.Case
import OtcDesk.Proofs.Text.Control
import OtcDesk.Proofs.Text.Integer
import OtcDesk.Proofs.Tracker.Agenda
import OtcDesk.Proofs.Tracker.Alone
import OtcDesk.Proofs.Tracker.Budget
import OtcDesk.Proofs.Tracker.Calls
import OtcDesk.Proofs.Tracker.Chronology
import OtcDesk.Proofs.Tracker.Course
import OtcDesk.Proofs.Tracker.Elapsing
import OtcDesk.Proofs.Tracker.Ending
import OtcDesk.Proofs.Tracker.Fetches
import OtcDesk.Proofs.Tracker.Frame
import OtcDesk.Proofs.Tracker.Grid
import OtcDesk.Proofs.Tracker.Happening
import OtcDesk.Proofs.Tracker.Isolation
import OtcDesk.Proofs.Tracker.Pace
import OtcDesk.Proofs.Tracker.Progress
import OtcDesk.Proofs.Tracker.Pursuit
import OtcDesk.Proofs.Tracker.Quotations
import OtcDesk.Proofs.Tracker.Reporting
import OtcDesk.Proofs.Tracker.Schedule
import OtcDesk.Proofs.Tracker.SelfTermination
import OtcDesk.Proofs.Tracker.Shown
import OtcDesk.Proofs.Tracker.Sightings
import OtcDesk.Proofs.Tracker.Survival
import OtcDesk.Proofs.Tracker.Turn
import OtcDesk.Proofs.Tracker.Waiting
import OtcDesk.Proofs.Wallet
import OtcDesk.Record.Login
import OtcDesk.Record.Proof
import OtcDesk.Record.Trade
import OtcDesk.Report.StatusLine
import OtcDesk.Report.Text
import OtcDesk.Role
import OtcDesk.Sealing
import OtcDesk.Session.Slots
import OtcDesk.Session.Store
import OtcDesk.Submission
import OtcDesk.Table
import OtcDesk.Text.Blank
import OtcDesk.Text.Case
import OtcDesk.Text.CaseTable
import OtcDesk.Text.Columns
import OtcDesk.Text.Integer
import OtcDesk.Text.PrintableTable
import OtcDesk.Text.Quoted
import OtcDesk.Tracker.Agenda
import OtcDesk.Tracker.Basic
import OtcDesk.Tracker.Board
import OtcDesk.Tracker.Outcome
import OtcDesk.Tracker.Polling
import OtcDesk.Tracker.View
import OtcDesk.Wallet
import OtcDesk.Warning
