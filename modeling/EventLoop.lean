import EventLoop.Console.Command
import EventLoop.Console.Run
import EventLoop.Console.Session
import EventLoop.Console.Terminal
import EventLoop.Counters
import EventLoop.Decimal.Double
import EventLoop.Decimal.Nearest
import EventLoop.Decimal.Shortest
import EventLoop.Error
import EventLoop.Events
import EventLoop.Fault
import EventLoop.Log.Directory
import EventLoop.Log.Filter
import EventLoop.Log.Notice
import EventLoop.Log.Pattern
import EventLoop.Main
import EventLoop.Memory
import EventLoop.Poll
import EventLoop.Pool
import EventLoop.Pool.Buffer
import EventLoop.Proofs.Console.Entries
import EventLoop.Proofs.Console.Expects
import EventLoop.Proofs.Console.Grammar
import EventLoop.Proofs.Console.Input
import EventLoop.Proofs.Console.Lines
import EventLoop.Proofs.Console.Loop
import EventLoop.Proofs.Console.Messages
import EventLoop.Proofs.Console.Newline
import EventLoop.Proofs.Console.Reading
import EventLoop.Proofs.Machine.Account
import EventLoop.Proofs.Machine.Ahead
import EventLoop.Proofs.Machine.Cancellation
import EventLoop.Proofs.Machine.Deadlines
import EventLoop.Proofs.Machine.Delivery
import EventLoop.Proofs.Machine.Drain
import EventLoop.Proofs.Machine.Drive
import EventLoop.Proofs.Machine.DueTime
import EventLoop.Proofs.Machine.Failure
import EventLoop.Proofs.Machine.Fifo
import EventLoop.Proofs.Machine.History
import EventLoop.Proofs.Machine.Lockstep
import EventLoop.Proofs.Machine.Lookup
import EventLoop.Proofs.Machine.Names
import EventLoop.Proofs.Machine.Nesting
import EventLoop.Proofs.Machine.Occurrence
import EventLoop.Proofs.Machine.Peak
import EventLoop.Proofs.Machine.Progress
import EventLoop.Proofs.Machine.Queue
import EventLoop.Proofs.Machine.Retry
import EventLoop.Proofs.Machine.Rounds
import EventLoop.Proofs.Machine.Run
import EventLoop.Proofs.Machine.Scratch
import EventLoop.Proofs.Machine.Script
import EventLoop.Proofs.Machine.Shift
import EventLoop.Proofs.Machine.Stage
import EventLoop.Proofs.Machine.Standing
import EventLoop.Proofs.Machine.Tick
import EventLoop.Proofs.Machine.Transcript
import EventLoop.Proofs.Machine.Twins
import EventLoop.Proofs.Machine.Wait
import EventLoop.Proofs.Machine.Wakeup
import EventLoop.Proofs.Pool.Calls
import EventLoop.Proofs.Pool.Capacity
import EventLoop.Proofs.Pool.Course
import EventLoop.Proofs.Pool.Handles
import EventLoop.Proofs.Pool.Lifetime
import EventLoop.Proofs.Pool.Mapped
import EventLoop.Proofs.Pool.Preallocation
import EventLoop.Proofs.Pool.Refusal
import EventLoop.Proofs.Pool.Reuse
import EventLoop.Proofs.Reactor.Ahead
import EventLoop.Proofs.Reactor.Cancellation
import EventLoop.Proofs.Reactor.Capacity
import EventLoop.Proofs.Reactor.Dispatch
import EventLoop.Proofs.Reactor.Growth
import EventLoop.Proofs.Reactor.Lookup
import EventLoop.Proofs.Reactor.Ownership
import EventLoop.Proofs.Reactor.Preallocation
import EventLoop.Proofs.Reactor.Readiness
import EventLoop.Proofs.Reactor.Refusal
import EventLoop.Proofs.Reactor.Registration
import EventLoop.Proofs.Reactor.Scratch
import EventLoop.Proofs.Reactor.Selection
import EventLoop.Proofs.Reactor.Twins
import EventLoop.Proofs.Reactor.Waiting
import EventLoop.Proofs.Reactor.Wakeup
import EventLoop.Proofs.Reactor.Withdrawal
import EventLoop.Proofs.Settings.Decode
import EventLoop.Proofs.Store.Address
import EventLoop.Proofs.Store.Buffers
import EventLoop.Proofs.Store.Map
import EventLoop.Proofs.Store.Reading
import EventLoop.Proofs.Store.Records
import EventLoop.Proofs.Store.Refusal
import EventLoop.Proofs.Store.Search
import EventLoop.Proofs.Store.Seeding
import EventLoop.Proofs.Store.Walk
import EventLoop.Proofs.Store.Write
import EventLoop.Proofs.Text.Blank
import EventLoop.Proofs.Text.Digits
import EventLoop.Proofs.Text.Numeral
import EventLoop.Proofs.Time.Construction
import EventLoop.Proofs.Time.Nanos
import EventLoop.Proofs.Time.Words
import EventLoop.Proofs.Toml.Keys
import EventLoop.Reactor.Basic
import EventLoop.Reactor.Error
import EventLoop.Reactor.Machine
import EventLoop.Reactor.Program
import EventLoop.Reactor.Report
import EventLoop.Reactor.Tick
import EventLoop.Scenario.Basic
import EventLoop.Scenario.Play
import EventLoop.Settings.Basic
import EventLoop.Settings.Decode
import EventLoop.Settings.Seed
import EventLoop.Store.Basic
import EventLoop.Store.Error
import EventLoop.Store.Kind
import EventLoop.Store.Search
import EventLoop.Store.Value
import EventLoop.Text.Alphanumeric
import EventLoop.Text.Blank
import EventLoop.Text.Lenient
import EventLoop.Text.Numeral
import EventLoop.Text.Pieces
import EventLoop.Text.Place
import EventLoop.Text.Quoted
import EventLoop.Text.Visible
import EventLoop.Time.Instant
import EventLoop.Time.Span
import EventLoop.Time.Text
import EventLoop.Toml.DateTime
import EventLoop.Toml.Document
import EventLoop.Toml.Lexical
import EventLoop.Toml.Number
import EventLoop.Toml.Tree
import EventLoop.Toml.Value
import EventLoop.Proofs.Machine.TickCount
import EventLoop.Proofs.Settings.Seeding
