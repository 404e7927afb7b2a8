import Statute.Backend.Error
import Statute.Backend.Exchange
import Statute.Backend.Request
import Statute.Backend.Routes
import Statute.Backend.Script
import Statute.Backend.Service
import Statute.Backend.Session
import Statute.Backend.Wire
import Statute.Chat.Thread
import Statute.Color
import Statute.Console.Arguments
import Statute.Console.Command
import Statute.Console.Invocation
import Statute.Console.Layout
import Statute.Console.Program
import Statute.Examples.Constant
import Statute.Examples.Generated
import Statute.Examples.Program
import Statute.Examples.Store
import Statute.Graph.Basic
import Statute.Graph.Build
import Statute.Highlight.Annotation
import Statute.Highlight.Piece
import Statute.Highlight.Selection
import Statute.Hover.Board
import Statute.Hover.Signal
import Statute.Json.Decode
import Statute.Json.Numeral
import Statute.Json.Printer
import Statute.Json.Reader
import Statute.Json.Value
import Statute.Log.Feed
import Statute.Log.Follower
import Statute.Log.Paging
import Statute.Log.Rehearsal
import Statute.Logic.Clause
import Statute.Logic.Clause.Cursor
import Statute.Logic.Clause.Data
import Statute.Logic.Clause.Reader
import Statute.Logic.DynamicDeclaration
import Statute.Logic.Error
import Statute.Logic.Outline
import Statute.Logic.Predicate
import Statute.Logic.Term
import Statute.Logic.Token
import Statute.Logic.Token.Scan
import Statute.Main
import Statute.Number.FixedPoint
import Statute.Number.Integer
import Statute.Occurrences
import Statute.Proofs.Chat.Sending
import Statute.Proofs.Color
import Statute.Proofs.Console.Definitions
import Statute.Proofs.Entries
import Statute.Proofs.Examples.Additions
import Statute.Proofs.Examples.Atomicity
import Statute.Proofs.Examples.BlankConstants
import Statute.Proofs.Examples.Constants
import Statute.Proofs.Examples.FactOrder
import Statute.Proofs.Examples.FactPrograms
import Statute.Proofs.Examples.Imports
import Statute.Proofs.Examples.InPlace
import Statute.Proofs.Examples.Matching
import Statute.Proofs.Examples.ReadConstants
import Statute.Proofs.Examples.References
import Statute.Proofs.Examples.Statements
import Statute.Proofs.Graph.Assembly
import Statute.Proofs.Graph.Calls
import Statute.Proofs.Graph.Edges
import Statute.Proofs.Graph.Extraction
import Statute.Proofs.Graph.Quotient
import Statute.Proofs.Highlight.Accepted
import Statute.Proofs.Highlight.Cutting
import Statute.Proofs.Highlight.Decoding
import Statute.Proofs.Highlight.Disjointness
import Statute.Proofs.Highlight.Greedy
import Statute.Proofs.Highlight.Markup
import Statute.Proofs.Highlight.Reencoding
import Statute.Proofs.Highlight.Stripping
import Statute.Proofs.Hover.Delivery
import Statute.Proofs.Json.Records
import Statute.Proofs.Log.Bursts
import Statute.Proofs.Log.Following
import Statute.Proofs.Log.WholeLog
import Statute.Proofs.Logic.ArgumentTexts
import Statute.Proofs.Logic.ClauseMarks
import Statute.Proofs.Logic.Commitment
import Statute.Proofs.Logic.Concatenation
import Statute.Proofs.Logic.Declarations
import Statute.Proofs.Logic.Derivation
import Statute.Proofs.Logic.ErrorPlaces
import Statute.Proofs.Logic.Literals
import Statute.Proofs.Logic.Masking
import Statute.Proofs.Logic.PredicateText
import Statute.Proofs.Logic.ProgramLoop
import Statute.Proofs.Logic.ProgramText
import Statute.Proofs.Logic.Reading
import Statute.Proofs.Logic.Reprinting
import Statute.Proofs.Logic.Scanning
import Statute.Proofs.Logic.Spelling
import Statute.Proofs.Logic.TermHeight
import Statute.Proofs.Logic.TokenPlaces
import Statute.Proofs.Logic.TokenTexts
import Statute.Proofs.Logic.WrittenCalls
import Statute.Proofs.Regulation.Exchanged
import Statute.Proofs.Sequences
import Statute.Proofs.Text.Substitution
import Statute.Proofs.Text.Trimming
import Statute.Proofs.Time.Calendar
import Statute.Proofs.Time.Fields
import Statute.Proofs.Time.Instants
import Statute.Proofs.Time.Writings
import Statute.Proofs.Viewer.DrawnGraph
import Statute.Proofs.Viewer.Escaping
import Statute.Proofs.Viewer.Slots
import Statute.Proofs.Viewer.Waiting
import Statute.Regulation.Atom
import Statute.Regulation.ExampleSet
import Statute.Regulation.Fragment
import Statute.Regulation.LanguageModel
import Statute.Regulation.LogEntry
import Statute.Regulation.Message
import Statute.Regulation.Query
import Statute.Regulation.Rule
import Statute.Settings.Basic
import Statute.Settings.Data
import Statute.Settings.Load
import Statute.Terminal
import Statute.Text.Alphanumeric
import Statute.Text.Blank
import Statute.Text.CodeRanges
import Statute.Text.CombiningClass
import Statute.Text.Composite
import Statute.Text.DecimalDigit
import Statute.Text.Direction
import Statute.Text.Joining
import Statute.Text.Mark
import Statute.Text.NormalForm
import Statute.Text.Printable
import Statute.Text.Quoted
import Statute.Text.Search
import Statute.Time.Date
import Statute.Time.Reading
import Statute.Time.Timestamp
import Statute.Toml.Decode
import Statute.Toml.Printer
import Statute.Toml.Reader
import Statute.Toml.Scalar
import Statute.Toml.Table
import Statute.Toml.Text
import Statute.Toml.Value
import Statute.Viewer.Answer
import Statute.Viewer.Behavior
import Statute.Viewer.GraphView
import Statute.Viewer.HoverBody
import Statute.Viewer.LongPoll
import Statute.Viewer.Page
import Statute.Viewer.Style
import Statute.Viewer.Visit
import Statute.Viewer.Wire
import Statute.Web.Address
import Statute.Web.Domain
import Statute.Web.Domain.Table
import Statute.Web.Form
import Statute.Web.Host
import Statute.Web.Message
import Statute.Web.Percent
import Statute.Web.Punycode
