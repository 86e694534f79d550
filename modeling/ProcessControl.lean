import ProcessControl.Deadline
import ProcessControl.Degraded
import ProcessControl.Delegated
import ProcessControl.Duration
import ProcessControl.Errno
import ProcessControl.Event
import ProcessControl.Failure
import ProcessControl.Json.Fault
import ProcessControl.Json.Printer
import ProcessControl.Json.Reader
import ProcessControl.Json.Shape
import ProcessControl.Json.Skip
import ProcessControl.Json.Tagged
import ProcessControl.Json.Value
import ProcessControl.Linux.Interface
import ProcessControl.Linux.Platform
import ProcessControl.Linux.Procfs
import ProcessControl.Log
import ProcessControl.Log.Filter
import ProcessControl.Log.Line
import ProcessControl.Macos.Interface
import ProcessControl.Macos.Platform
import ProcessControl.Main
import ProcessControl.Name
import ProcessControl.Operation
import ProcessControl.PathFailure
import ProcessControl.Pid
import ProcessControl.Platform
import ProcessControl.Program
import ProcessControl.Queue
import ProcessControl.Record
import ProcessControl.Settings
import ProcessControl.Sim.Directory
import ProcessControl.Sim.Host
import ProcessControl.Sim.Linux
import ProcessControl.Sim.Macos
import ProcessControl.Sim.Scripted
import ProcessControl.Sim.Shell.Arithmetic
import ProcessControl.Sim.Shell.Builtin
import ProcessControl.Sim.Shell.Builtin.Input
import ProcessControl.Sim.Shell.Builtin.Signals
import ProcessControl.Sim.Shell.Builtin.Variables
import ProcessControl.Sim.Shell.Command
import ProcessControl.Sim.Shell.Condition
import ProcessControl.Sim.Shell.Expansion
import ProcessControl.Sim.Shell.Focus
import ProcessControl.Sim.Shell.Format
import ProcessControl.Sim.Shell.Launch
import ProcessControl.Sim.Shell.Machine
import ProcessControl.Sim.Shell.Pattern
import ProcessControl.Sim.Shell.Run
import ProcessControl.Sim.Shell.Scope
import ProcessControl.Sim.Shell.Search
import ProcessControl.Sim.Shell.Token
import ProcessControl.Sim.Shell.Tool
import ProcessControl.Sim.Shell.Tool.Editing
import ProcessControl.Sim.Shell.Tool.Files
import ProcessControl.Sim.Shell.Tool.Known
import ProcessControl.Sim.Shell.Tool.Lines
import ProcessControl.Sim.Shell.Word
import ProcessControl.Sim.Signals
import ProcessControl.Sim.Windows
import ProcessControl.Snapshot
import ProcessControl.Table
import ProcessControl.Text.Alphanumeric
import ProcessControl.Text.Binary64
import ProcessControl.Text.Blank
import ProcessControl.Text.Decimal
import ProcessControl.Text.Numeral
import ProcessControl.Text.Pattern
import ProcessControl.Text.Pattern.CharClass
import ProcessControl.Text.Pattern.Escape
import ProcessControl.Text.Place
import ProcessControl.Text.Printable
import ProcessControl.Text.RangeSet
import ProcessControl.Text.Utf16
import ProcessControl.Text.Utf8
import ProcessControl.Timestamp
import ProcessControl.TraceId
import ProcessControl.Unix.Interface
import ProcessControl.Unix.Kill
import ProcessControl.Unix.Launch
import ProcessControl.Unix.Shell
import ProcessControl.Uptime
import ProcessControl.Validation
import ProcessControl.Windows.Interface
import ProcessControl.Windows.Platform
import ProcessControl.Proofs.Program
import ProcessControl.Proofs.Table.Session
import ProcessControl.Proofs.Table.Targets
import ProcessControl.Proofs.Linux.Defunct
import ProcessControl.Proofs.Channel
import ProcessControl.Proofs.Queue.History
import ProcessControl.Proofs.Queue.Room
import ProcessControl.Proofs.Unix.Life
import ProcessControl.Proofs.Deadline
import ProcessControl.Proofs.Table.Gate
import ProcessControl.Proofs.Table.Identity
import ProcessControl.Proofs.Linux.Snapshot
import ProcessControl.Proofs.Program.History
import ProcessControl.Proofs.Program.Likeness
import ProcessControl.Proofs.Table.Listing
import ProcessControl.Proofs.Linux.Listing
import ProcessControl.Proofs.Linux.Entries
import ProcessControl.Proofs.Linux.Names
import ProcessControl.Proofs.Macos.Listing
import ProcessControl.Proofs.Windows.Operations
import ProcessControl.Proofs.Windows.Handles
import ProcessControl.Proofs.Windows.Listing
import ProcessControl.Proofs.Windows.Closing
import ProcessControl.Proofs.Windows.Leaks
import ProcessControl.Proofs.Table.Platforms
import ProcessControl.Proofs.Table.Agreement
import ProcessControl.Proofs.Table.Tracing
import ProcessControl.Proofs.Text.Lossy
import ProcessControl.Proofs.Table.Records
import ProcessControl.Proofs.Json.Reading
import ProcessControl.Proofs.Json.Text
import ProcessControl.Proofs.Json.Number
import ProcessControl.Proofs.Json.Shape
import ProcessControl.Proofs.Settings
import ProcessControl.Proofs.Deadline.Overflow
import ProcessControl.Proofs.Deadline.Race
import ProcessControl.Proofs.Record
import ProcessControl.Proofs.Json.Grammar
import ProcessControl.Proofs.Json.Tagged
import ProcessControl.Proofs.Failure
import ProcessControl.Proofs.Unix.Protocol
import ProcessControl.Proofs.Unix.Settling
import ProcessControl.Proofs.Unix.Shell
import ProcessControl.Proofs.Json.Skip
import ProcessControl.Proofs.Json.Answers
import ProcessControl.Proofs.Json.Members
import ProcessControl.Proofs.Record.Members
import ProcessControl.Proofs.Text.Padding
import ProcessControl.Proofs.Name
import ProcessControl.Proofs.Settings.Variables
import ProcessControl.Proofs.Settings.Rule
import ProcessControl.Proofs.Json.Kept
import ProcessControl.Proofs.Settings.Timeout
import ProcessControl.Proofs.Text.Utf16
import ProcessControl.Proofs.Windows.Names
import ProcessControl.Proofs.Windows.LastError
import ProcessControl.Proofs.Macos.Growth
import ProcessControl.Proofs.Linux.Memory
import ProcessControl.Proofs.Text.Numeral
import ProcessControl.Proofs.Uptime
import ProcessControl.Proofs.Json.Indented
import ProcessControl.Proofs.Snapshot
import ProcessControl.Proofs.Text.Place
import ProcessControl.Proofs.Linux.State
