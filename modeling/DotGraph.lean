import DotGraph.Binary64.Basic
import DotGraph.Binary64.Reading
import DotGraph.Binary64.Shortest
import DotGraph.Binary64.Text
import DotGraph.Graph.Basic
import DotGraph.Graph.Export
import DotGraph.Graph.Import
import DotGraph.Graph.OfStatements
import DotGraph.Graph.Resolution
import DotGraph.Graph.Scope
import DotGraph.Graph.ToDecl
import DotGraph.GraphDecl.OfTokens
import DotGraph.Journal
import DotGraph.Json.Basic
import DotGraph.Json.Display
import DotGraph.Json.Parser
import DotGraph.Json.Printer
import DotGraph.OrderedMap
import DotGraph.Proofs.Accounts
import DotGraph.Proofs.Calls
import DotGraph.Proofs.ClosingQuotes
import DotGraph.Proofs.Commuting
import DotGraph.Proofs.Composition
import DotGraph.Proofs.Containers
import DotGraph.Proofs.Continuation
import DotGraph.Proofs.Contract
import DotGraph.Proofs.Defaults
import DotGraph.Proofs.Desugaring
import DotGraph.Proofs.Earlier
import DotGraph.Proofs.Earliest
import DotGraph.Proofs.Edges
import DotGraph.Proofs.Equivalence
import DotGraph.Proofs.Erasure
import DotGraph.Proofs.Export
import DotGraph.Proofs.Faults
import DotGraph.Proofs.Grammar.Bodies
import DotGraph.Proofs.Grammar.Declarations
import DotGraph.Proofs.Grammar.Phrases
import DotGraph.Proofs.Grammar.Prompt
import DotGraph.Proofs.Grammar.PromptReaders
import DotGraph.Proofs.Grammar.Reads
import DotGraph.Proofs.Grammar.Roles
import DotGraph.Proofs.Grammar.Statements
import DotGraph.Proofs.Grammar.Tree
import DotGraph.Proofs.Insertion
import DotGraph.Proofs.Isolation
import DotGraph.Proofs.Json.Grammar
import DotGraph.Proofs.Json.Number
import DotGraph.Proofs.Json.Reading
import DotGraph.Proofs.Json.Writing
import DotGraph.Proofs.Lexemes
import DotGraph.Proofs.Loading
import DotGraph.Proofs.Locations
import DotGraph.Proofs.Mention
import DotGraph.Proofs.Merging
import DotGraph.Proofs.Newline
import DotGraph.Proofs.NodeAttrs
import DotGraph.Proofs.NormalForm
import DotGraph.Proofs.Overlay
import DotGraph.Proofs.Placement
import DotGraph.Proofs.Printing
import DotGraph.Proofs.Readable
import DotGraph.Proofs.Refusals
import DotGraph.Proofs.Relabel
import DotGraph.Proofs.Rendering
import DotGraph.Proofs.Respelling
import DotGraph.Proofs.Retiling
import DotGraph.Proofs.Stepping.Phrases
import DotGraph.Proofs.Stepping.Progress
import DotGraph.Proofs.Stepping.Readers
import DotGraph.Proofs.Stepping.Stages
import DotGraph.Proofs.Tiling
import DotGraph.Proofs.Tokens
import DotGraph.Proofs.Trivia
import DotGraph.Proofs.Untyped
import DotGraph.Proofs.Visits
import DotGraph.Proofs.WellFormed
import DotGraph.Reader.AttrList
import DotGraph.Reader.Basic
import DotGraph.Reader.Body
import DotGraph.Reader.Name
import DotGraph.Reader.Repeat
import DotGraph.Record
import DotGraph.Session
import DotGraph.Source.Location
import DotGraph.Statement.Basic
import DotGraph.Statement.LoadError
import DotGraph.Statement.OfJson
import DotGraph.Statement.Printer
import DotGraph.Statement.ToJson
import DotGraph.SyntaxError
import DotGraph.Text.Blank
import DotGraph.Text.CodeRanges
import DotGraph.Text.Hex
import DotGraph.Text.Letter
import DotGraph.Text.Numeric
import DotGraph.Text.Printable
import DotGraph.Text.Quoted
import DotGraph.Text.Run
import DotGraph.Token.Basic
import DotGraph.Token.Lexeme
import DotGraph.Token.Lexer
import DotGraph.Token.Printer
import DotGraph.Token.Segment
