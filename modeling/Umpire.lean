import Umpire.Bout.Conduct
import Umpire.Bout.Handle
import Umpire.Bout.Holdings
import Umpire.Bout.Launch
import Umpire.Bout.Redirection
import Umpire.Bout.Run
import Umpire.Bout.SignalPipe
import Umpire.Bout.Wiring
import Umpire.Cascade
import Umpire.CommandLine
import Umpire.Contest
import Umpire.Dialogue
import Umpire.Fault
import Umpire.Host.Call
import Umpire.Host.Ends
import Umpire.Host.Errno
import Umpire.Host.Files
import Umpire.Host.Image
import Umpire.Host.Install
import Umpire.Host.Kernel
import Umpire.Host.Life
import Umpire.Host.Machine
import Umpire.Host.Node
import Umpire.Host.Order
import Umpire.Host.Registry
import Umpire.Host.Serve
import Umpire.Host.Setup
import Umpire.Host.Signal
import Umpire.Host.Table
import Umpire.Host.Transfer
import Umpire.Host.Walk
import Umpire.Journal.Directive
import Umpire.Journal.Entry
import Umpire.Journal.Filter
import Umpire.Journal.ValuePattern
import Umpire.Journal.Verbosity
import Umpire.Main
import Umpire.Options.Complaint
import Umpire.Options.Group
import Umpire.Options.Scan
import Umpire.Placeholder
import Umpire.Program
import Umpire.Proofs.Bout.Attempt
import Umpire.Proofs.Bout.Binding
import Umpire.Proofs.Bout.Calm
import Umpire.Proofs.Bout.Chronicle
import Umpire.Proofs.Bout.Clearing
import Umpire.Proofs.Bout.Dispatch
import Umpire.Proofs.Bout.Drive
import Umpire.Proofs.Bout.Guard
import Umpire.Proofs.Bout.Handling
import Umpire.Proofs.Bout.Installation
import Umpire.Proofs.Bout.Kin
import Umpire.Proofs.Bout.Launching
import Umpire.Proofs.Bout.Lawful
import Umpire.Proofs.Bout.Mooring
import Umpire.Proofs.Bout.Outcome
import Umpire.Proofs.Bout.Ownership
import Umpire.Proofs.Bout.Phases
import Umpire.Proofs.Bout.Play
import Umpire.Proofs.Bout.Preparation
import Umpire.Proofs.Bout.Presiding
import Umpire.Proofs.Bout.Progress
import Umpire.Proofs.Bout.Reckoning
import Umpire.Proofs.Bout.Record
import Umpire.Proofs.Bout.Releasing
import Umpire.Proofs.Bout.Relinquishing
import Umpire.Proofs.Bout.Scene
import Umpire.Proofs.Bout.Stock
import Umpire.Proofs.Bout.Traceless
import Umpire.Proofs.Bout.Wiring
import Umpire.Proofs.Cascade
import Umpire.Proofs.CommandLine
import Umpire.Proofs.Contest
import Umpire.Proofs.Dialogue
import Umpire.Proofs.Host.Attend
import Umpire.Proofs.Host.Doom
import Umpire.Proofs.Host.Harmless
import Umpire.Proofs.Host.Installing
import Umpire.Proofs.Host.Lasting
import Umpire.Proofs.Host.Obedience
import Umpire.Proofs.Host.Opening
import Umpire.Proofs.Host.Passage
import Umpire.Proofs.Host.Quiet
import Umpire.Proofs.Host.Redirecting
import Umpire.Proofs.Host.Registry
import Umpire.Proofs.Host.Station
import Umpire.Proofs.Host.Transfer
import Umpire.Proofs.Host.Turn
import Umpire.Proofs.Host.Turns
import Umpire.Proofs.Journal.Verbosity
import Umpire.Proofs.Loading
import Umpire.Proofs.Options.Grammar
import Umpire.Proofs.Options.Reading
import Umpire.Proofs.Options.Repetition
import Umpire.Proofs.Options.Request
import Umpire.Proofs.Options.Scan
import Umpire.Proofs.Options.Settings
import Umpire.Proofs.Placeholder.Seams
import Umpire.Proofs.Placeholder.Segments
import Umpire.Proofs.Placeholder.Wording
import Umpire.Proofs.Program
import Umpire.Proofs.Race.History
import Umpire.Proofs.Race.Wait
import Umpire.Proofs.Rehearsal.Invocation
import Umpire.Proofs.Rehearsal.Puppet
import Umpire.Proofs.Report
import Umpire.Proofs.Report.Language
import Umpire.Proofs.Text.Numeral
import Umpire.Proofs.Text.Spelling
import Umpire.Proofs.Text.Utf8
import Umpire.Proofs.Trial.History
import Umpire.Proofs.Trial.Region
import Umpire.Proofs.WaitStatus
import Umpire.Race.Detector
import Umpire.Race.History
import Umpire.Rehearsal.Capture
import Umpire.Rehearsal.Invocation
import Umpire.Rehearsal.Puppet
import Umpire.Report
import Umpire.Shell.Alteration
import Umpire.Shell.Arithmetic
import Umpire.Shell.Assigning
import Umpire.Shell.Braces
import Umpire.Shell.Builtin.Arguments
import Umpire.Shell.Builtin.Basic
import Umpire.Shell.Builtin.Finding
import Umpire.Shell.Builtin.Judging
import Umpire.Shell.Builtin.Naming
import Umpire.Shell.Builtin.Printing
import Umpire.Shell.Builtin.Reading
import Umpire.Shell.Builtin.Standing
import Umpire.Shell.Builtin.Surroundings
import Umpire.Shell.Builtin.Table
import Umpire.Shell.Child
import Umpire.Shell.Complaint
import Umpire.Shell.Control
import Umpire.Shell.Expansion
import Umpire.Shell.Interpreter
import Umpire.Shell.Jobs
import Umpire.Shell.Mark
import Umpire.Shell.Menu
import Umpire.Shell.Parameter
import Umpire.Shell.Parser
import Umpire.Shell.Paths
import Umpire.Shell.Pattern
import Umpire.Shell.Quoting
import Umpire.Shell.Redirecting
import Umpire.Shell.Source
import Umpire.Shell.Start
import Umpire.Shell.State
import Umpire.Shell.Storing
import Umpire.Shell.Syntax
import Umpire.Shell.Timing
import Umpire.Shell.Tracing
import Umpire.Shell.Trap
import Umpire.Shell.Variable
import Umpire.Shell.Verdict
import Umpire.Shell.Word
import Umpire.Side
import Umpire.Text.Alphanumeric
import Umpire.Text.Bytes
import Umpire.Text.Floating
import Umpire.Text.Lines
import Umpire.Text.LowerCase
import Umpire.Text.Numeral
import Umpire.Text.Plain
import Umpire.Text.Quoted
import Umpire.Text.Regex
import Umpire.Text.Search
import Umpire.Text.Utf8
import Umpire.Tool.Batch
import Umpire.Tool.Blocks
import Umpire.Tool.Catalogue
import Umpire.Tool.Condition
import Umpire.Tool.Editor
import Umpire.Tool.Errands
import Umpire.Tool.Filters
import Umpire.Tool.Flags
import Umpire.Tool.Format
import Umpire.Tool.Listing
import Umpire.Tool.Mode
import Umpire.Tool.Names
import Umpire.Tool.Ordering
import Umpire.Tool.Outlet
import Umpire.Tool.Script
import Umpire.Tool.Searching
import Umpire.Tool.Sequence
import Umpire.Tool.Streams
import Umpire.Tool.Words
import Umpire.Trial.Anchors
import Umpire.Trial.Command
import Umpire.Trial.Ground
import Umpire.Trial.Install
import Umpire.Trial.Launch
import Umpire.Trial.Region
import Umpire.Trial.Run
import Umpire.Trial.Wiring
import Umpire.WaitStatus
