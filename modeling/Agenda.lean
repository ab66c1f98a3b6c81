import Agenda.Calendar.Date
import Agenda.Calendar.Moment
import Agenda.Calendar.Spoken
import Agenda.Calendar.Written
import Agenda.CommandLine.Arguments
import Agenda.CommandLine.Command
import Agenda.CommandLine.Form
import Agenda.CommandLine.Grid
import Agenda.CommandLine.Help
import Agenda.CommandLine.Report
import Agenda.CommandLine.Run
import Agenda.CommandLine.Usage
import Agenda.Disk.Address
import Agenda.Disk.Basic
import Agenda.Disk.Opening
import Agenda.Disk.Path
import Agenda.Json.Quoted
import Agenda.Json.Token
import Agenda.Json.Value
import Agenda.Main
import Agenda.NumberSet
import Agenda.Proofs.Calendar.Codec
import Agenda.Proofs.Calendar.Order
import Agenda.Proofs.Calendar.Years
import Agenda.Proofs.CommandLine.Run
import Agenda.Proofs.Disk.Entries
import Agenda.Proofs.Disk.Opening
import Agenda.Proofs.Outcome
import Agenda.Proofs.Rule.Canonical
import Agenda.Proofs.Rule.Completion
import Agenda.Proofs.Rule.NextBound
import Agenda.Proofs.Rule.NumberList
import Agenda.Proofs.Rule.Occurrence
import Agenda.Proofs.Rule.Reach
import Agenda.Proofs.Rule.Reading
import Agenda.Proofs.Rule.Satisfiable
import Agenda.Proofs.Rule.Search
import Agenda.Proofs.Rule.SelectedDays
import Agenda.Proofs.Task.Changes
import Agenda.Proofs.Task.Effect
import Agenda.Proofs.Task.LateCompletion
import Agenda.Proofs.Task.Listing
import Agenda.Proofs.Task.Operation
import Agenda.Proofs.Task.Placement
import Agenda.Proofs.Task.Statements
import Agenda.Proofs.Task.Stopover
import Agenda.Proofs.Task.StoredDates
import Agenda.Proofs.Task.StoredRows
import Agenda.Proofs.Task.Storing
import Agenda.Proofs.Task.Table
import Agenda.Proofs.Task.TimeOfDay
import Agenda.Proofs.Task.Verdict
import Agenda.Proofs.Text.ByteOrder
import Agenda.Proofs.Text.Digits
import Agenda.Proofs.Text.Integers
import Agenda.Proofs.Text.Pattern
import Agenda.Proofs.Text.Words
import Agenda.Rule.Basic
import Agenda.Rule.Error
import Agenda.Rule.Parser
import Agenda.Rule.Printer
import Agenda.Rule.Schedule
import Agenda.Settings.Basic
import Agenda.Settings.Environment
import Agenda.Settings.Quoted
import Agenda.Settings.Sources
import Agenda.Settings.Toml
import Agenda.Task.Archive
import Agenda.Task.Basic
import Agenda.Task.Error
import Agenda.Task.Json
import Agenda.Task.Operation
import Agenda.Task.Outside
import Agenda.Task.Placement
import Agenda.Task.Search
import Agenda.Task.Table
import Agenda.Text.Blank
import Agenda.Text.CharacterClass
import Agenda.Text.Escape
import Agenda.Text.Like
import Agenda.Text.Number
import Agenda.Text.Width
import Agenda.Proofs.Rule.Anniversary
import Agenda.Proofs.Rule.Grammar
import Agenda.Proofs.Text.Matching
import Agenda.Proofs.Calendar.YearSums
import Agenda.Proofs.Rule.Description
import Agenda.Proofs.Calendar.Spoken
import Agenda.Proofs.CommandLine.DateArgument
import Agenda.Proofs.CommandLine.Reports
