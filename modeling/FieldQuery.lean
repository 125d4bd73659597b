import FieldQuery.Check
import FieldQuery.CommandLine.Arguments
import FieldQuery.CommandLine.Run
import FieldQuery.Cursor
import FieldQuery.Decimal
import FieldQuery.FileTree
import FieldQuery.Highlight
import FieldQuery.Highlight.Syntax
import FieldQuery.Json
import FieldQuery.Json.Number
import FieldQuery.Json.Reader
import FieldQuery.Log
import FieldQuery.Main
import FieldQuery.Node
import FieldQuery.Node.Json
import FieldQuery.Node.Outline
import FieldQuery.Node.Printed
import FieldQuery.Node.Query
import FieldQuery.Paint
import FieldQuery.Parser
import FieldQuery.Parser.Event
import FieldQuery.Path
import FieldQuery.QueryError
import FieldQuery.Report
import FieldQuery.Settings
import FieldQuery.Settings.Discovery
import FieldQuery.Settings.Layer
import FieldQuery.Settings.Template
import FieldQuery.Table
import FieldQuery.Text
import FieldQuery.Text.Quoted
import FieldQuery.Text.Utf8
import FieldQuery.Token
import FieldQuery.Token.Escape
import FieldQuery.Token.Lexeme
import FieldQuery.Token.Listing
import FieldQuery.Tokenizer
import FieldQuery.Toml.Document
import FieldQuery.Toml.Scalar
import FieldQuery.Toml.String
import FieldQuery.Toml.Value
import FieldQuery.Unicode.Alphanumeric
import FieldQuery.Unicode.Emoji
import FieldQuery.Unicode.Ligature
import FieldQuery.Unicode.Printable
import FieldQuery.Unicode.Ranges
import FieldQuery.Unicode.TextWidth
import FieldQuery.Unicode.Whitespace
import FieldQuery.Unicode.Width
import FieldQuery.Proofs.Cursor
import FieldQuery.Proofs.Lexeme
import FieldQuery.Proofs.Token.Escape
import FieldQuery.Proofs.Tokenizer
import FieldQuery.Proofs.Lexeme.Language
import FieldQuery.Proofs.Grammar
import FieldQuery.Proofs.Lexeme.Tiling
import FieldQuery.Proofs.Parser.Complete
import FieldQuery.Proofs.Parser.Sound
import FieldQuery.Proofs.Grammar.Shape
import FieldQuery.Proofs.Lexeme.Quoting
import FieldQuery.Proofs.Node.Written
import FieldQuery.Proofs.Node.Reread
import FieldQuery.Proofs.Node.RoundTrip
import FieldQuery.Proofs.Parser.Stop
import FieldQuery.Proofs.Parser.Viable
import FieldQuery.Proofs.Parser.Depth
import FieldQuery.Proofs.Grammar.Truth
import FieldQuery.Proofs.Cursor.Lawful
import FieldQuery.Proofs.Cursor.Script
import FieldQuery.Proofs.Cursor.Position
import FieldQuery.Proofs.Parser.Ahead
import FieldQuery.Proofs.Parser.Fragment
import FieldQuery.Proofs.Node.Leaves
import FieldQuery.Proofs.Node.Sayable
import FieldQuery.Proofs.Node.Restated
import FieldQuery.Proofs.Parser.Columns
import FieldQuery.Proofs.Parser.Spacing
import FieldQuery.Proofs.Json.Nesting
import FieldQuery.Proofs.Json.Written
import FieldQuery.Proofs.Node.Complaint
import FieldQuery.Proofs.Node.Codec
import FieldQuery.Proofs.Node.Printed
import FieldQuery.Proofs.FileTree
import FieldQuery.Proofs.Settings.Merge
import FieldQuery.Proofs.Settings.Discovery
import FieldQuery.Proofs.Settings.Isolation
import FieldQuery.Proofs.Toml.String
import FieldQuery.Proofs.Toml.Document
import FieldQuery.Proofs.Settings.Written
import FieldQuery.Proofs.Settings.Template
import FieldQuery.Proofs.Settings.Addition
import FieldQuery.Proofs.CommandLine.Init
import FieldQuery.Proofs.FileTree.Writing
import FieldQuery.Proofs.CommandLine.Atomic
import FieldQuery.Proofs.Grammar.Tally
import FieldQuery.Proofs.Parser.Forward
import FieldQuery.Proofs.QueryError.Column
import FieldQuery.Proofs.Text.Lines
import FieldQuery.Proofs.QueryError.Caret
import FieldQuery.Proofs.QueryError.Wording
import FieldQuery.Proofs.Report
import FieldQuery.Proofs.Settings.Precedence
import FieldQuery.Proofs.Text.Parts
import FieldQuery.Proofs.Paint
import FieldQuery.Proofs.Highlight
import FieldQuery.Proofs.Text.Quoted
import FieldQuery.Proofs.Node.Outline
import FieldQuery.Proofs.Unicode.TextWidth
import FieldQuery.Proofs.Table
import FieldQuery.Proofs.Token.Listing
import FieldQuery.Proofs.Settings.Global
import FieldQuery.Proofs.Lexeme.Scanning
import FieldQuery.Proofs.Parser.InStep
