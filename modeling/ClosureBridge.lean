import ClosureBridge.Bench.Answer
import ClosureBridge.Bench.Perform
import ClosureBridge.Bench.RegistryTrial
import ClosureBridge.Bench.Run
import ClosureBridge.Bench.State
import ClosureBridge.Bench.Trial
import ClosureBridge.Binding
import ClosureBridge.Bindings
import ClosureBridge.Capture
import ClosureBridge.Cell
import ClosureBridge.Config.Basic
import ClosureBridge.Config.Files
import ClosureBridge.Config.Printer
import ClosureBridge.Config.Reader
import ClosureBridge.Context
import ClosureBridge.Descriptor
import ClosureBridge.Dispatch
import ClosureBridge.Error
import ClosureBridge.Exec
import ClosureBridge.FileTree
import ClosureBridge.Host.Closure
import ClosureBridge.Host.Program
import ClosureBridge.Host.Request
import ClosureBridge.Host.Term
import ClosureBridge.Ident
import ClosureBridge.Image
import ClosureBridge.Interpreter
import ClosureBridge.Json
import ClosureBridge.Lambda
import ClosureBridge.Log
import ClosureBridge.LogFile
import ClosureBridge.Marshal
import ClosureBridge.Mode
import ClosureBridge.Native.Interface
import ClosureBridge.Native.Symbols
import ClosureBridge.Native.Tape
import ClosureBridge.Number.Exact
import ClosureBridge.Number.FloatText
import ClosureBridge.Number.Radix
import ClosureBridge.Number.Shortest
import ClosureBridge.Number.Word
import ClosureBridge.Path
import ClosureBridge.Proofs.Interpreter.Events
import ClosureBridge.Proofs.Interpreter.Growth
import ClosureBridge.Proofs.Registry.Arena
import ClosureBridge.Proofs.Registry.FiniteMap
import ClosureBridge.Proofs.Session.Change
import ClosureBridge.Registry
import ClosureBridge.Script.Eval
import ClosureBridge.Script.Expr
import ClosureBridge.Script.Fault
import ClosureBridge.Script.Heap
import ClosureBridge.Script.Interface
import ClosureBridge.Script.Operator
import ClosureBridge.Script.Parser
import ClosureBridge.Script.Show
import ClosureBridge.Script.Statement
import ClosureBridge.Script.Store
import ClosureBridge.Script.Token
import ClosureBridge.Session
import ClosureBridge.Shape
import ClosureBridge.SourceLambda
import ClosureBridge.Text.Category
import ClosureBridge.Text.CharSet
import ClosureBridge.Text.Lines
import ClosureBridge.Text.Quoted
import ClosureBridge.Text.Replace
import ClosureBridge.Text.Table.Alphabetic
import ClosureBridge.Text.Table.GraphemeExtend
import ClosureBridge.Text.Table.Numeric
import ClosureBridge.Text.Table.Unprintable
import ClosureBridge.Text.Utf8
import ClosureBridge.Toml.Basic
import ClosureBridge.Toml.Blank
import ClosureBridge.Toml.Document
import ClosureBridge.Toml.Moment
import ClosureBridge.Toml.Numeral
import ClosureBridge.Toml.Quote
import ClosureBridge.Toml.Reader
import ClosureBridge.Toml.Section
import ClosureBridge.Toml.Table
import ClosureBridge.Value
import ClosureBridge.World
import ClosureBridge.Proofs.Session.Keeps
import ClosureBridge.Proofs.Session.Library
import ClosureBridge.Proofs.Session.Exposure
import ClosureBridge.Proofs.Session.Scripts
import ClosureBridge.Proofs.Session.Bench
import ClosureBridge.Proofs.Session.Runs
import ClosureBridge.Proofs.Dispatch.Ending
import ClosureBridge.Proofs.Lambda.Calling
import ClosureBridge.Proofs.Lambda.Registered
import ClosureBridge.Proofs.Lambda.Released
import ClosureBridge.Proofs.Session.Levels
import ClosureBridge.Proofs.Cell.Split
import ClosureBridge.Proofs.Context.Operation
import ClosureBridge.Proofs.Context.Pending
import ClosureBridge.Proofs.Context.Watch
import ClosureBridge.Proofs.Capture.Buffer
import ClosureBridge.Proofs.Capture.Drain
import ClosureBridge.Proofs.Capture.Start
import ClosureBridge.Proofs.Capture.Account
import ClosureBridge.Proofs.Interpreter.Show
import ClosureBridge.Proofs.Cell.Interleaving
import ClosureBridge.Proofs.Cell.Output
import ClosureBridge.Proofs.Dispatch.Fate
import ClosureBridge.Proofs.Dispatch.Ledger
import ClosureBridge.Proofs.Descriptor.Pool
import ClosureBridge.Proofs.Lambda.Custody
import ClosureBridge.Proofs.Dispatch.Function
import ClosureBridge.Proofs.Interpreter.Reading
import ClosureBridge.Proofs.Lambda.Mapping
import ClosureBridge.Proofs.Lambda.Composition
import ClosureBridge.Proofs.Lambda.Freshness
import ClosureBridge.Proofs.Interpreter.Definition
import ClosureBridge.Proofs.Lambda.Resolution
import ClosureBridge.Proofs.Interpreter.References
import ClosureBridge.Proofs.Lambda.References
import ClosureBridge.Proofs.Lambda.Failure
import ClosureBridge.Proofs.Binding.Starting
import ClosureBridge.Proofs.Interpreter.Naming
import ClosureBridge.Proofs.Text.Utf8
import ClosureBridge.Proofs.FileTree.Writing
import ClosureBridge.Proofs.Toml.Quote
import ClosureBridge.Proofs.Toml.Document
import ClosureBridge.Proofs.Config.RoundTrip
import ClosureBridge.Proofs.Interpreter.Grammar
import ClosureBridge.Proofs.Interpreter.Parsing
import ClosureBridge.Proofs.Context.Compiling
import ClosureBridge.Proofs.Context.Silence
import ClosureBridge.Proofs.Dispatch.Typed
import ClosureBridge.Proofs.Lambda.Scope
import ClosureBridge.Proofs.Number.Denotation
import ClosureBridge.Proofs.Number.Rounding
import ClosureBridge.Proofs.Number.Nearest
import ClosureBridge.Proofs.Marshal.Coercion
import ClosureBridge.Proofs.Interpreter.Datum
import ClosureBridge.Proofs.Interpreter.Literal
import ClosureBridge.Proofs.Interpreter.ReadBack
import ClosureBridge.Proofs.Lambda.Attempts
import ClosureBridge.Proofs.Registry.Peak
import ClosureBridge.Proofs.Lambda.Supply
import ClosureBridge.Proofs.Interpreter.Tree
import ClosureBridge.Proofs.Interpreter.Equality
import ClosureBridge.Proofs.Config.Marker
import ClosureBridge.Proofs.Number.Modulus
import ClosureBridge.Proofs.Interpreter.Raising
import ClosureBridge.Proofs.Order.Heap
import ClosureBridge.Proofs.Order.Host
import ClosureBridge.Proofs.Order.State
import ClosureBridge.Proofs.Order.Computation
import ClosureBridge.Proofs.Order.Script
import ClosureBridge.Proofs.Order.Interpreter
import ClosureBridge.Proofs.Order.Library
import ClosureBridge.Proofs.Order.Lambda
import ClosureBridge.Proofs.Order.Bench
import ClosureBridge.Proofs.Order.Perform
import ClosureBridge.Proofs.Order.Run
