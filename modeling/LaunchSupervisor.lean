import LaunchSupervisor.Bus.Connection
import LaunchSupervisor.Bus.Described
import LaunchSupervisor.Bus.Frame
import LaunchSupervisor.Bus.LineBuffer
import LaunchSupervisor.Bus.Message
import LaunchSupervisor.Bus.Session
import LaunchSupervisor.Bus.Socket
import LaunchSupervisor.Bus.Wire
import LaunchSupervisor.Caller
import LaunchSupervisor.CommandLine
import LaunchSupervisor.Diagnostics
import LaunchSupervisor.Environment
import LaunchSupervisor.ErrorLog
import LaunchSupervisor.Files.Basic
import LaunchSupervisor.Files.Disk
import LaunchSupervisor.Files.Tree
import LaunchSupervisor.IconCache.ActionFile
import LaunchSupervisor.IconCache.Basic
import LaunchSupervisor.IconCache.Catalog
import LaunchSupervisor.IconCache.Command
import LaunchSupervisor.IconCache.CommandLine
import LaunchSupervisor.IconCache.Store
import LaunchSupervisor.IconCache.Tool
import LaunchSupervisor.Json.Basic
import LaunchSupervisor.Json.Lexer
import LaunchSupervisor.Json.Magnitude
import LaunchSupervisor.Json.Parser
import LaunchSupervisor.Json.Writer
import LaunchSupervisor.Launch
import LaunchSupervisor.Main
import LaunchSupervisor.Notice
import LaunchSupervisor.Path
import LaunchSupervisor.Policy
import LaunchSupervisor.ProcessTree
import LaunchSupervisor.Proofs.Bus.Attempts
import LaunchSupervisor.Proofs.Bus.Framing
import LaunchSupervisor.Proofs.Bus.Lines
import LaunchSupervisor.Proofs.Bus.Oversized
import LaunchSupervisor.Proofs.Bus.RoundTrip
import LaunchSupervisor.Proofs.Bus.Turns
import LaunchSupervisor.Proofs.Bus.Withholding
import LaunchSupervisor.Proofs.Caller
import LaunchSupervisor.Proofs.CommandLine
import LaunchSupervisor.Proofs.Files.Calls
import LaunchSupervisor.Proofs.Files.Contents
import LaunchSupervisor.Proofs.Files.Faltering
import LaunchSupervisor.Proofs.Files.Lasting
import LaunchSupervisor.Proofs.Files.LastingDisk
import LaunchSupervisor.Proofs.Files.Orderly
import LaunchSupervisor.Proofs.Files.Refusing
import LaunchSupervisor.Proofs.IconCache.Ageing
import LaunchSupervisor.Proofs.IconCache.FileFormat
import LaunchSupervisor.Proofs.IconCache.Lookup
import LaunchSupervisor.Proofs.IconCache.Names
import LaunchSupervisor.Proofs.IconCache.Precedence
import LaunchSupervisor.Proofs.IconCache.Programs
import LaunchSupervisor.Proofs.IconCache.Reload
import LaunchSupervisor.Proofs.IconCache.Reports
import LaunchSupervisor.Proofs.IconCache.Saving
import LaunchSupervisor.Proofs.IconCache.ToolCalls
import LaunchSupervisor.Proofs.IconCache.Updates
import LaunchSupervisor.Proofs.IconCache.Written
import LaunchSupervisor.Proofs.Json.Lexing
import LaunchSupervisor.Proofs.Json.Numerals
import LaunchSupervisor.Proofs.Json.RoundTrip
import LaunchSupervisor.Proofs.Launch
import LaunchSupervisor.Proofs.Notice
import LaunchSupervisor.Proofs.ProcessTree
import LaunchSupervisor.Proofs.Reactor.Accounting
import LaunchSupervisor.Proofs.Reactor.Alignment
import LaunchSupervisor.Proofs.Reactor.Cleanup
import LaunchSupervisor.Proofs.Reactor.History
import LaunchSupervisor.Proofs.Reactor.LastPass
import LaunchSupervisor.Proofs.Reactor.Output
import LaunchSupervisor.Proofs.Reactor.Panic
import LaunchSupervisor.Proofs.Reactor.Preemption
import LaunchSupervisor.Proofs.Reactor.Turn
import LaunchSupervisor.Proofs.Reactor.Wakeups
import LaunchSupervisor.Proofs.Reactor.Windows
import LaunchSupervisor.Proofs.Reactor.Wire
import LaunchSupervisor.Proofs.Session.Conversation
import LaunchSupervisor.Proofs.Session.Dispatch
import LaunchSupervisor.Proofs.Session.Drift
import LaunchSupervisor.Proofs.Session.Exchange
import LaunchSupervisor.Proofs.Session.Life
import LaunchSupervisor.Proofs.Session.Quiet
import LaunchSupervisor.Proofs.Session.Report
import LaunchSupervisor.Proofs.Session.Settlement
import LaunchSupervisor.Proofs.Session.Standing
import LaunchSupervisor.Proofs.Session.Trace
import LaunchSupervisor.Proofs.Shutdown.Grace
import LaunchSupervisor.Proofs.Shutdown.Handlers
import LaunchSupervisor.Proofs.Shutdown.Lingering
import LaunchSupervisor.Proofs.Shutdown.ReplyWait
import LaunchSupervisor.Proofs.Shutdown.Safety
import LaunchSupervisor.Proofs.Shutdown.Termination
import LaunchSupervisor.Proofs.Shutdown.Tick
import LaunchSupervisor.Proofs.Stderr.Blocks
import LaunchSupervisor.Proofs.Stderr.Bursts
import LaunchSupervisor.Proofs.Stderr.Capture
import LaunchSupervisor.Proofs.Text.Decoding
import LaunchSupervisor.Proofs.Text.Lines
import LaunchSupervisor.Proofs.Text.Numerals
import LaunchSupervisor.Proofs.Tunables
import LaunchSupervisor.Reactor.Basic
import LaunchSupervisor.Reactor.Outage
import LaunchSupervisor.Reactor.Rehearsal
import LaunchSupervisor.Reactor.Run
import LaunchSupervisor.Reactor.Step
import LaunchSupervisor.Shutdown.Core
import LaunchSupervisor.Shutdown.Phase
import LaunchSupervisor.Shutdown.Signals
import LaunchSupervisor.Stderr.Drain
import LaunchSupervisor.Stderr.Pipe
import LaunchSupervisor.Supervisor
import LaunchSupervisor.Text.Blank
import LaunchSupervisor.Text.CaseTable
import LaunchSupervisor.Text.CodeRange
import LaunchSupervisor.Text.Lines
import LaunchSupervisor.Text.LowerCase
import LaunchSupervisor.Text.Number
import LaunchSupervisor.Text.Quoted
import LaunchSupervisor.Text.Search
import LaunchSupervisor.Text.UnshownTable
import LaunchSupervisor.Text.Utf8
import LaunchSupervisor.Trial.Command
import LaunchSupervisor.Trial.Deed
import LaunchSupervisor.Trial.Launcher
import LaunchSupervisor.Trial.Processes
import LaunchSupervisor.Trial.Run
import LaunchSupervisor.Trial.Shell.Run
import LaunchSupervisor.Trial.Shell.Script
import LaunchSupervisor.Tunables.Basic
import LaunchSupervisor.Tunables.Document
