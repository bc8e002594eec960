import PodGauges.Catalogue
import PodGauges.Cgroup.Cpu
import PodGauges.Cgroup.Memory
import PodGauges.Cgroup.Snapshot
import PodGauges.Config
import PodGauges.Config.Error
import PodGauges.Config.Listen
import PodGauges.Config.Naming
import PodGauges.Config.Target
import PodGauges.Cycle
import PodGauges.Cycle.Category
import PodGauges.Cycle.Failure
import PodGauges.Disk
import PodGauges.Downward
import PodGauges.Dump
import PodGauges.Exporter
import PodGauges.Exposition
import PodGauges.File.Errno
import PodGauges.File.Path
import PodGauges.File.Text
import PodGauges.File.Tree
import PodGauges.Gauges
import PodGauges.Gauges.Writes
import PodGauges.Host.Cpu
import PodGauges.Host.Memory
import PodGauges.Host.Snapshot
import PodGauges.Http
import PodGauges.Http.Wire
import PodGauges.Keyed
import PodGauges.Limit
import PodGauges.Log
import PodGauges.Main
import PodGauges.Metric
import PodGauges.Network.Interface
import PodGauges.Network.Sockets
import PodGauges.Number.Binary64
import PodGauges.Number.Integer
import PodGauges.Number.Layout
import PodGauges.Number.Quantity
import PodGauges.Number.Real
import PodGauges.Number.Shortest
import PodGauges.Pattern.CharClass
import PodGauges.Pattern.Dialect
import PodGauges.Pattern.Escape
import PodGauges.Pattern.Fault
import PodGauges.Pattern.Flags
import PodGauges.Pattern.Grammar
import PodGauges.Pattern.Match
import PodGauges.Pattern.Node
import PodGauges.Pattern.Source
import PodGauges.Processes.Aggregate
import PodGauges.Processes.Sample
import PodGauges.Processes.Stat
import PodGauges.Proofs.Catalogue
import PodGauges.Proofs.Cgroup.Accounting
import PodGauges.Proofs.Cgroup.Files
import PodGauges.Proofs.Cgroup.Independence
import PodGauges.Proofs.Config.Accepted
import PodGauges.Proofs.Config.Labels
import PodGauges.Proofs.Config.Listen
import PodGauges.Proofs.Config.Names
import PodGauges.Proofs.Config.Outcome
import PodGauges.Proofs.Config.PidList
import PodGauges.Proofs.Cycle.Failure
import PodGauges.Proofs.Cycle.Isolation
import PodGauges.Proofs.Cycle.Members
import PodGauges.Proofs.Cycle.Observation
import PodGauges.Proofs.Cycle.Reading
import PodGauges.Proofs.Cycle.Sampling
import PodGauges.Proofs.Cycle.Success
import PodGauges.Proofs.Declared
import PodGauges.Proofs.Downward
import PodGauges.Proofs.Downward.Fields
import PodGauges.Proofs.Downward.Listing
import PodGauges.Proofs.Dump
import PodGauges.Proofs.Dump.LastLine
import PodGauges.Proofs.Dump.Lines
import PodGauges.Proofs.Except
import PodGauges.Proofs.Exporter
import PodGauges.Proofs.Exposition
import PodGauges.Proofs.File.Walk
import PodGauges.Proofs.Gauges.Aligned
import PodGauges.Proofs.Gauges.Observed
import PodGauges.Proofs.Gauges.Ownership
import PodGauges.Proofs.Gauges.Renaming
import PodGauges.Proofs.Gauges.Writing
import PodGauges.Proofs.Host.Sources
import PodGauges.Proofs.Keyed
import PodGauges.Proofs.Network.Counting
import PodGauges.Proofs.Network.SocketTable
import PodGauges.Proofs.Number.Decimal
import PodGauges.Proofs.Number.Hexadecimal
import PodGauges.Proofs.Number.Literal
import PodGauges.Proofs.Number.Order
import PodGauges.Proofs.Number.Positive
import PodGauges.Proofs.Number.Range
import PodGauges.Proofs.Pattern.Reading
import PodGauges.Proofs.Pattern.Refusal
import PodGauges.Proofs.Processes.Aggregation
import PodGauges.Proofs.Processes.BootTime
import PodGauges.Proofs.Processes.Fields
import PodGauges.Proofs.Processes.Name
import PodGauges.Proofs.Processes.OptionalFiles
import PodGauges.Proofs.Processes.Samples
import PodGauges.Proofs.Registration
import PodGauges.Proofs.Target.Scan
import PodGauges.Proofs.Target.Summaries
import PodGauges.Proofs.Text.Cutting
import PodGauges.Proofs.Text.Separation
import PodGauges.Proofs.Text.Trimming
import PodGauges.Proofs.Text.Utf8
import PodGauges.Registration
import PodGauges.Resource
import PodGauges.Session
import PodGauges.Target
import PodGauges.Text.Blank
import PodGauges.Text.Cutting
import PodGauges.Text.DecimalDigit
import PodGauges.Text.Identifier
import PodGauges.Text.Letter
import PodGauges.Text.LetterCase
import PodGauges.Text.Printable
import PodGauges.Text.Quoted
import PodGauges.Text.Utf8
import PodGauges.Throttle
