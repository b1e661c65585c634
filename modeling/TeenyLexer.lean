import TeenyLexer.CommandLine.Arguments
import TeenyLexer.CommandLine.Dump
import TeenyLexer.CommandLine.Listing
import TeenyLexer.CommandLine.Transcript
import TeenyLexer.Diagnostic.Basic
import TeenyLexer.Diagnostic.Excerpt
import TeenyLexer.FileTree.Basic
import TeenyLexer.FileTree.Path
import TeenyLexer.Location
import TeenyLexer.Main
import TeenyLexer.Proofs.Rendering.Page
import TeenyLexer.Proofs.Rendering.Printing
import TeenyLexer.Proofs.Rendering.Span
import TeenyLexer.Proofs.Scanner.Decomposition
import TeenyLexer.Proofs.Scanner.Diagnosis
import TeenyLexer.Proofs.Scanner.Reachable
import TeenyLexer.Proofs.Scanner.Run
import TeenyLexer.Proofs.Source.Gap
import TeenyLexer.Proofs.Source.LongestSpelling
import TeenyLexer.Proofs.Source.Place
import TeenyLexer.Proofs.Source.Spelling
import TeenyLexer.Proofs.Token.Codec
import TeenyLexer.Scanner.Basic
import TeenyLexer.Scanner.Record
import TeenyLexer.Scanner.Session
import TeenyLexer.Settings
import TeenyLexer.Source.Cursor
import TeenyLexer.Source.Grammar
import TeenyLexer.Source.Layout
import TeenyLexer.Source.Reading
import TeenyLexer.Text.Align
import TeenyLexer.Text.Alphanumeric
import TeenyLexer.Text.Blank
import TeenyLexer.Text.CodePoints
import TeenyLexer.Text.ControlSequence
import TeenyLexer.Text.Hex
import TeenyLexer.Text.Lines
import TeenyLexer.Text.Printable
import TeenyLexer.Text.Quoted
import TeenyLexer.Text.Similarity
import TeenyLexer.Text.Utf8
import TeenyLexer.Token.Basic
import TeenyLexer.Token.Escape
import TeenyLexer.Token.Kind
import TeenyLexer.Proofs.Scanner.Stream
import TeenyLexer.Proofs.Session.Cursor
import TeenyLexer.Proofs.Scanner.Concatenation
import TeenyLexer.Proofs.Session.Sharing
import TeenyLexer.Proofs.CommandLine.Row
import TeenyLexer.Proofs.Text.Utf8
import TeenyLexer.Proofs.CommandLine.FileDump
import TeenyLexer.Proofs.Source.Growth
import TeenyLexer.Proofs.Scanner.Lookahead
import TeenyLexer.Proofs.Scanner.Resumption
import TeenyLexer.Proofs.Rendering.Respacing
import TeenyLexer.Proofs.Rendering.Returns
import TeenyLexer.Proofs.Rendering.Insertion
import TeenyLexer.Proofs.CommandLine.Decoding
import TeenyLexer.Proofs.Scanner.Naming
import TeenyLexer.Proofs.Session.Naming
import TeenyLexer.Proofs.Session.Replay
import TeenyLexer.Proofs.CommandLine.Tracing
import TeenyLexer.Proofs.Rendering.LineEndings
import TeenyLexer.Proofs.CommandLine.LineEndings
import TeenyLexer.Proofs.Source.Loops
import TeenyLexer.Proofs.Scanner.Progress
import TeenyLexer.Proofs.Session.Pulls
import TeenyLexer.Proofs.Session.Progress
import TeenyLexer.Proofs.Session.EndOfInput
import TeenyLexer.Proofs.Diagnostic.Caret
import TeenyLexer.Proofs.Token.Lexeme
import TeenyLexer.Proofs.Session.Log
import TeenyLexer.Proofs.Token.Lookup
import TeenyLexer.Proofs.Scanner.Cutting
import TeenyLexer.Proofs.Scanner.Numerals
import TeenyLexer.Proofs.Scanner.Identifiers
import TeenyLexer.Proofs.CommandLine.Statements
import TeenyLexer.Proofs.Text.ControlSequence
import TeenyLexer.Proofs.Rendering.Newlines
import TeenyLexer.Proofs.CommandLine.Summary
import TeenyLexer.Proofs.Text.Lines
import TeenyLexer.Proofs.CommandLine.LineCount
import TeenyLexer.Proofs.Scanner.Escapes
import TeenyLexer.Proofs.Diagnostic.Printable
import TeenyLexer.Proofs.CommandLine.ShownCaret
import TeenyLexer.Proofs.CommandLine.StatementLines
