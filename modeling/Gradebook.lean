import Gradebook.Address
import Gradebook.Binary64.Arithmetic
import Gradebook.Binary64.Basic
import Gradebook.Binary64.Exponential
import Gradebook.Catalog
import Gradebook.Cohort
import Gradebook.Command.Form
import Gradebook.Command.Line
import Gradebook.Command.Outcome
import Gradebook.Course.Basic
import Gradebook.Course.Build
import Gradebook.Course.Document
import Gradebook.Course.Error
import Gradebook.Course.Json
import Gradebook.Course.Source
import Gradebook.Decimal.Fixed
import Gradebook.Decimal.Reading
import Gradebook.Decimal.Shortest
import Gradebook.Decimal.Style
import Gradebook.Decimal.Whole
import Gradebook.Environment
import Gradebook.Environment.File
import Gradebook.Failure
import Gradebook.Grading
import Gradebook.Grading.Error
import Gradebook.Http.MediaType
import Gradebook.Http.Site
import Gradebook.Http.Target
import Gradebook.Json.Basic
import Gradebook.Json.Decoding
import Gradebook.Json.Number
import Gradebook.Json.Reading
import Gradebook.Json.Writing
import Gradebook.LogFilter
import Gradebook.Main
import Gradebook.MarkSheet
import Gradebook.NameMap
import Gradebook.Pattern.Basic
import Gradebook.Pattern.CharacterClass
import Gradebook.Pattern.Escape
import Gradebook.Pattern.Mode
import Gradebook.Pattern.Reading
import Gradebook.Platform
import Gradebook.Policy
import Gradebook.Proofs.Binary64.Bounds
import Gradebook.Proofs.Binary64.Exponential
import Gradebook.Proofs.Binary64.Interpolation
import Gradebook.Proofs.Binary64.Order
import Gradebook.Proofs.Binary64.TotalOrder
import Gradebook.Proofs.Binary64.Whole
import Gradebook.Proofs.Course.Building
import Gradebook.Proofs.Course.Consistency
import Gradebook.Proofs.Course.Content
import Gradebook.Proofs.Course.Legacy
import Gradebook.Proofs.Course.Soundness
import Gradebook.Proofs.Course.Sources
import Gradebook.Proofs.Course.WrittenSources
import Gradebook.Proofs.Decimal.Numerals
import Gradebook.Proofs.Decimal.Places
import Gradebook.Proofs.Decimal.Shortest
import Gradebook.Proofs.Grading.Awards
import Gradebook.Proofs.Grading.BestEvidence
import Gradebook.Proofs.Grading.ClaimedFlags
import Gradebook.Proofs.Grading.Decay
import Gradebook.Proofs.Grading.Evidence
import Gradebook.Proofs.Grading.Locality
import Gradebook.Proofs.Grading.MarkSheets
import Gradebook.Proofs.Grading.Marks
import Gradebook.Proofs.Grading.MoreEvidence
import Gradebook.Proofs.Grading.Points
import Gradebook.Proofs.Grading.Ranking
import Gradebook.Proofs.Grading.Ratios
import Gradebook.Proofs.Grading.Reports
import Gradebook.Proofs.Grading.RetakeFloor
import Gradebook.Proofs.Grading.Shares
import Gradebook.Proofs.Grading.StableRanking
import Gradebook.Proofs.Grading.Totals
import Gradebook.Proofs.Json.Reading
import Gradebook.Proofs.Pattern.Reading
import Gradebook.Proofs.Repository.Alignment
import Gradebook.Proofs.Repository.Answers
import Gradebook.Proofs.Repository.Batch
import Gradebook.Proofs.Repository.Dataset
import Gradebook.Proofs.Repository.RecordOrder
import Gradebook.Proofs.Repository.Retakes
import Gradebook.Proofs.Repository.Separation
import Gradebook.Proofs.Repository.SharedProjects
import Gradebook.Proofs.Service.Calls
import Gradebook.Proofs.Service.Changes
import Gradebook.Proofs.Service.Interleaving
import Gradebook.Proofs.Service.LateStandings
import Gradebook.Proofs.Service.Ledger
import Gradebook.Proofs.Service.Overrides
import Gradebook.Proofs.Service.Publications
import Gradebook.Proofs.Service.Refreshing
import Gradebook.Proofs.Service.Steps
import Gradebook.Proofs.Service.Transparency
import Gradebook.Proofs.Text.Splitting
import Gradebook.Proofs.Time.Durations
import Gradebook.Proofs.Time.Lateness
import Gradebook.Proofs.Time.Offsets
import Gradebook.Proofs.Time.WholeDurations
import Gradebook.Proofs.Yaml.Composing
import Gradebook.Proofs.Yaml.Scanning
import Gradebook.Record
import Gradebook.Record.Json
import Gradebook.Register
import Gradebook.Register.Json
import Gradebook.Report
import Gradebook.Report.Json
import Gradebook.Repository
import Gradebook.Repository.Grading
import Gradebook.Rounding
import Gradebook.Score
import Gradebook.Service
import Gradebook.Service.Cache
import Gradebook.Settings
import Gradebook.Signal
import Gradebook.Text.Blank
import Gradebook.Text.Hexadecimal
import Gradebook.Text.Letters
import Gradebook.Text.Percent
import Gradebook.Text.Quoted
import Gradebook.Text.Ranges
import Gradebook.Text.Split
import Gradebook.Text.Uppercase
import Gradebook.Text.Utf8
import Gradebook.Time.Calendar
import Gradebook.Time.Duration
import Gradebook.Time.Instant
import Gradebook.Time.Offset
import Gradebook.Time.Reading
import Gradebook.Time.Written
import Gradebook.Title
import Gradebook.Yaml.BlockScalar
import Gradebook.Yaml.Cursor
import Gradebook.Yaml.Decoding
import Gradebook.Yaml.Fault
import Gradebook.Yaml.Fold
import Gradebook.Yaml.Node
import Gradebook.Yaml.Plain
import Gradebook.Yaml.QuotedScalar
import Gradebook.Yaml.Resolve
import Gradebook.Yaml.Scan
import Gradebook.Yaml.Tag
import Gradebook.Yaml.Token
import Gradebook.Yaml.Value
