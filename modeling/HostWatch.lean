import HostWatch.Binary64.Basic
import HostWatch.Binary64.Decimal
import HostWatch.Binary64.Places
import HostWatch.Calendar
import HostWatch.Clock
import HostWatch.Config.Basic
import HostWatch.Config.Document
import HostWatch.Config.Encryption
import HostWatch.Config.Fault
import HostWatch.Config.Field
import HostWatch.Config.Mapping
import HostWatch.Config.Reference
import HostWatch.Config.SamplingPlan
import HostWatch.ErrorDetails
import HostWatch.Failure
import HostWatch.FailureKind
import HostWatch.History
import HostWatch.Host.Collections
import HostWatch.Host.CpuGauge
import HostWatch.Host.CpuLines
import HostWatch.Host.CpuMeter
import HostWatch.Host.DiskActivity
import HostWatch.Host.Drives
import HostWatch.Host.LiveThreads
import HostWatch.Host.Machine
import HostWatch.Host.Memory
import HostWatch.Host.ProcessMemory
import HostWatch.Host.ProcessStat
import HostWatch.Host.Properties
import HostWatch.Host.Readings
import HostWatch.KeyedList
import HostWatch.Lock.Arena
import HostWatch.Lock.Registry
import HostWatch.Lock.WaitGraph
import HostWatch.Log.Record
import HostWatch.Log.Template
import HostWatch.Notice.Delivery
import HostWatch.Notice.Mail
import HostWatch.Notice.Sending
import HostWatch.Number
import HostWatch.Problem.Analyzer
import HostWatch.Problem.Html
import HostWatch.Problem.Report
import HostWatch.Problem.Rules
import HostWatch.Problem.RunStats
import HostWatch.Proofs.Config.Recipients
import HostWatch.Proofs.Config.RoundTrip
import HostWatch.Proofs.Host.BlockDevices
import HostWatch.Proofs.Host.CollectionSpans
import HostWatch.Proofs.Host.CoreNames
import HostWatch.Proofs.Host.CpuAgreement
import HostWatch.Proofs.Host.DiskTimes
import HostWatch.Proofs.Host.MeterContract
import HostWatch.Proofs.Host.SizeFile
import HostWatch.Proofs.Host.Snapshot
import HostWatch.Proofs.Host.StatLine
import HostWatch.Proofs.Lock.Circles
import HostWatch.Proofs.Notice.Order
import HostWatch.Proofs.Notice.Pending
import HostWatch.Proofs.Problem.BestRun
import HostWatch.Proofs.Problem.HtmlTable
import HostWatch.Proofs.Problem.LiveRules
import HostWatch.Proofs.Sampler.Keeping
import HostWatch.Proofs.Sampler.Restart
import HostWatch.Proofs.Sampler.Window
import HostWatch.Proofs.Service.Deeds
import HostWatch.Proofs.Service.Overtaking
import HostWatch.Proofs.Service.Schedule
import HostWatch.Proofs.SharedHistory
import HostWatch.Proofs.Thread.Labels
import HostWatch.Proofs.Thread.Percent
import HostWatch.ReportedError
import HostWatch.Sample.Basic
import HostWatch.Sample.Columns
import HostWatch.Sampler.Analyst
import HostWatch.Sampler.Basic
import HostWatch.Sampler.Course
import HostWatch.Sampler.Recipient
import HostWatch.Service.Agenda
import HostWatch.Service.Background
import HostWatch.Service.Lifecycle
import HostWatch.Service.Rehearsal
import HostWatch.Service.TimeScale
import HostWatch.Service.Timeline
import HostWatch.SlotOrder
import HostWatch.Text.Base64
import HostWatch.Text.Blank
import HostWatch.Text.Digit
import HostWatch.Text.Glyph
import HostWatch.Text.LetterCase
import HostWatch.Text.LowerCase
import HostWatch.Text.Numeral
import HostWatch.Text.Printable
import HostWatch.Text.Quoted
import HostWatch.Thread.Basic
import HostWatch.Thread.CpuTable
import HostWatch.Thread.Text
import HostWatch.Usage.Cpu
import HostWatch.Usage.Memory
import HostWatch.Value
import HostWatch.Yaml.Cursor
import HostWatch.Yaml.Document
import HostWatch.Yaml.Fault
import HostWatch.Yaml.Graph.Basic
import HostWatch.Yaml.Graph.Merge
import HostWatch.Yaml.Graph.Reader
import HostWatch.Yaml.Layout
import HostWatch.Yaml.Making
import HostWatch.Yaml.Scalar
import HostWatch.Yaml.ScalarText
import HostWatch.Yaml.Tag
import HostWatch.Yaml.Token
