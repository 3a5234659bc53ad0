import Strided.ArrayFile
import Strided.ArrayFormat
import Strided.ArrayIndex
import Strided.Attribute.Basic
import Strided.Attribute.Bytes
import Strided.Attribute.Container
import Strided.Attribute.Number
import Strided.Attribute.Plain
import Strided.Attribute.Text
import Strided.Attribute.Typed
import Strided.Backing
import Strided.Collector.Basic
import Strided.Collector.Chunk
import Strided.Collector.Forwarding
import Strided.Collector.Joining
import Strided.Collector.Single
import Strided.CommandLine.Check
import Strided.CommandLine.Emission
import Strided.CommandLine.Options
import Strided.CommandLine.Run
import Strided.Compression
import Strided.Defaults.Attribute
import Strided.Defaults.Contents
import Strided.Defaults.Context
import Strided.Defaults.Decorated
import Strided.Defaults.Program
import Strided.Defaults.ReferentType
import Strided.Defaults.Scope
import Strided.Defaults.Script
import Strided.Defaults.Signature
import Strided.Defaults.Wrapper
import Strided.Element
import Strided.Fault
import Strided.Fault.Kind
import Strided.FileTree
import Strided.Log
import Strided.Main
import Strided.NativeMemory
import Strided.Number.Binary
import Strided.Number.Decimal
import Strided.Number.Double
import Strided.Number.Literal
import Strided.Number.Shortest
import Strided.Number.Word
import Strided.Proofs.ArrayFormat
import Strided.Proofs.Collector.Agreement
import Strided.Proofs.Collector.Delivery
import Strided.Proofs.Collector.Forwarding
import Strided.Proofs.CommandLine.Check
import Strided.Proofs.CommandLine.Emission
import Strided.Proofs.CommandLine.Encoding
import Strided.Proofs.CommandLine.Options
import Strided.Proofs.CommandLine.Quoting
import Strided.Proofs.CommandLine.Run
import Strided.Proofs.CommandLine.Slicing
import Strided.Proofs.CommandLine.Spelling
import Strided.Proofs.Defaults.Acceptance
import Strided.Proofs.Defaults.Binding
import Strided.Proofs.Defaults.Call
import Strided.Proofs.Defaults.Invariant
import Strided.Proofs.Defaults.Isolation
import Strided.Proofs.Defaults.Passage
import Strided.Proofs.Defaults.PassingOn
import Strided.Proofs.Defaults.Received
import Strided.Proofs.Defaults.Resolution
import Strided.Proofs.Defaults.Scoping
import Strided.Proofs.Defaults.Script
import Strided.Proofs.Defaults.Settled
import Strided.Proofs.Defaults.Stacking
import Strided.Proofs.Defaults.Typing
import Strided.Proofs.Element
import Strided.Proofs.Outcome
import Strided.Proofs.Slice.Fields
import Strided.Proofs.Slice.Positions
import Strided.Proofs.Subscript
import Strided.Proofs.Table
import Strided.Proofs.Text.Decimal
import Strided.Proofs.Text.IntegerLiteral
import Strided.Proofs.Text.Utf8
import Strided.Proofs.Text.Words
import Strided.Proofs.View.Access
import Strided.Proofs.View.ArrayWindow
import Strided.Proofs.View.Checks
import Strided.Proofs.View.Contents
import Strided.Proofs.View.Derivation
import Strided.Proofs.View.Equality
import Strided.Proofs.View.Interchange
import Strided.Proofs.View.Iteration
import Strided.Proofs.View.Keeping
import Strided.Proofs.View.Laziness
import Strided.Proofs.View.Operation
import Strided.Proofs.View.Searching
import Strided.Proofs.View.Signals
import Strided.Proofs.View.Splitting
import Strided.Proofs.View.Subscript
import Strided.Proofs.View.Traversal
import Strided.Register
import Strided.Reply
import Strided.Settings
import Strided.Slice
import Strided.Subscript
import Strided.Table
import Strided.Text.Ascii
import Strided.Text.Blank
import Strided.Text.Casing
import Strided.Text.Digit
import Strided.Text.Identifier
import Strided.Text.IntegerLiteral
import Strided.Text.Letter
import Strided.Text.Lowercase
import Strided.Text.Printable
import Strided.Text.Quoted
import Strided.Text.Uppercase
import Strided.Text.Utf8
import Strided.Text.Words
import Strided.Traced
import Strided.TypedArray
import Strided.Value.Basic
import Strided.Value.Conversion
import Strided.Value.Dictionary
import Strided.Value.Equality
import Strided.Value.HashKey
import Strided.Value.Index
import Strided.Value.Item
import Strided.Value.Nest
import Strided.Value.Order
import Strided.Value.Printer
import Strided.Value.Stored
import Strided.View.Basic
import Strided.View.Sequence
import Strided.Window
