import BlockTemplate.Calendar.Civil
import BlockTemplate.Calendar.Directive
import BlockTemplate.Calendar.Moment
import BlockTemplate.Calendar.Pattern
import BlockTemplate.Calendar.Timestamp
import BlockTemplate.CommandLine
import BlockTemplate.CommandLine.Arguments
import BlockTemplate.CommandLine.Workspace
import BlockTemplate.Diagnosis
import BlockTemplate.Failure
import BlockTemplate.Failure.Json
import BlockTemplate.Fields
import BlockTemplate.Function
import BlockTemplate.Function.Builtin
import BlockTemplate.Function.Lorem
import BlockTemplate.Json
import BlockTemplate.Json.Decode
import BlockTemplate.Json.Lexer
import BlockTemplate.Json.Reader
import BlockTemplate.Json.Writer
import BlockTemplate.Main
import BlockTemplate.Number.Conversion
import BlockTemplate.Number.Double
import BlockTemplate.Number.FloatReader
import BlockTemplate.Number.FloatText
import BlockTemplate.Number.Natural
import BlockTemplate.Number.Rounding
import BlockTemplate.Number.Shortest
import BlockTemplate.Number.Whole
import BlockTemplate.NumberPattern
import BlockTemplate.Position
import BlockTemplate.Processor
import BlockTemplate.Processor.Evaluation
import BlockTemplate.Proofs.Calendar.DayNumber
import BlockTemplate.Proofs.Calendar.PatternMeaning
import BlockTemplate.Proofs.Calendar.PatternReading
import BlockTemplate.Proofs.Calendar.UniversalTime
import BlockTemplate.Proofs.CommandLine.Agreement
import BlockTemplate.Proofs.CommandLine.Spelling
import BlockTemplate.Proofs.Function.IntegerSum
import BlockTemplate.Proofs.Function.Joining
import BlockTemplate.Proofs.Function.Piping
import BlockTemplate.Proofs.Function.UtcDate
import BlockTemplate.Proofs.Function.Wrapping
import BlockTemplate.Proofs.Number.FixedText
import BlockTemplate.Proofs.Number.PatternLayout
import BlockTemplate.Proofs.Number.PatternText
import BlockTemplate.Proofs.Number.StrictInteger
import BlockTemplate.Proofs.Position.Lines
import BlockTemplate.Proofs.Position.Order
import BlockTemplate.Proofs.Processor.BlankInsertion
import BlockTemplate.Proofs.Processor.BuiltinCall
import BlockTemplate.Proofs.Processor.Concatenation
import BlockTemplate.Proofs.Processor.Dialogue
import BlockTemplate.Proofs.Processor.FailureSpan
import BlockTemplate.Proofs.Processor.IdentifierCase
import BlockTemplate.Proofs.Processor.NameKey
import BlockTemplate.Proofs.Processor.Noninterference
import BlockTemplate.Proofs.Processor.Observation
import BlockTemplate.Proofs.Processor.Record
import BlockTemplate.Proofs.Processor.Registry
import BlockTemplate.Proofs.Processor.Relocation
import BlockTemplate.Proofs.Processor.Strictness
import BlockTemplate.Proofs.Processor.Substitution
import BlockTemplate.Proofs.Properties.KeyRule
import BlockTemplate.Proofs.Properties.Lookup
import BlockTemplate.Proofs.Roman.Numeral
import BlockTemplate.Proofs.Roman.Overflow
import BlockTemplate.Proofs.Roman.Total
import BlockTemplate.Proofs.Syntax.BlankInsertion
import BlockTemplate.Proofs.Syntax.Derivation
import BlockTemplate.Proofs.Syntax.FaultSpan
import BlockTemplate.Proofs.Syntax.IdentifierCase
import BlockTemplate.Proofs.Syntax.Junction
import BlockTemplate.Proofs.Syntax.Partition
import BlockTemplate.Proofs.Syntax.PrintedBlock
import BlockTemplate.Proofs.Syntax.Reading
import BlockTemplate.Proofs.Syntax.Relocation
import BlockTemplate.Proofs.Syntax.Spelling
import BlockTemplate.Proofs.Syntax.Viability
import BlockTemplate.Proofs.Text.Ascii
import BlockTemplate.Proofs.Text.ByteOrder
import BlockTemplate.Proofs.Text.CaseDifference
import BlockTemplate.Proofs.Text.LetterCase
import BlockTemplate.Proofs.Text.LowerCase
import BlockTemplate.Proofs.Text.Runs
import BlockTemplate.Proofs.Text.Words
import BlockTemplate.Proofs.TitleCase.Idempotence
import BlockTemplate.Proofs.TitleCase.Letters
import BlockTemplate.Proofs.TitleCase.ListedWords
import BlockTemplate.Proofs.TitleCase.SmallWords
import BlockTemplate.Proofs.TitleCase.TitleWords
import BlockTemplate.Proofs.TitleCase.Treatment
import BlockTemplate.Proofs.Token.ClosingMarker
import BlockTemplate.Proofs.Token.Escapes
import BlockTemplate.Proofs.Token.IdentifierCase
import BlockTemplate.Proofs.Token.Junction
import BlockTemplate.Proofs.Token.LexicalError
import BlockTemplate.Proofs.Token.NeutralMarkers
import BlockTemplate.Proofs.Token.Progress
import BlockTemplate.Proofs.Token.QuotedText
import BlockTemplate.Proofs.Token.ScannerRun
import BlockTemplate.Proofs.Token.TokenStream
import BlockTemplate.Proofs.Value.JsonForm
import BlockTemplate.Properties
import BlockTemplate.Render
import BlockTemplate.Report
import BlockTemplate.Roman
import BlockTemplate.Settings
import BlockTemplate.Span
import BlockTemplate.Syntax
import BlockTemplate.Syntax.Json
import BlockTemplate.Syntax.Printer
import BlockTemplate.Syntax.TokenMachine
import BlockTemplate.Text.Blank
import BlockTemplate.Text.CaseMapping
import BlockTemplate.Text.CaseTable
import BlockTemplate.Text.Offset
import BlockTemplate.Text.Search
import BlockTemplate.Text.Width
import BlockTemplate.Text.WidthTable
import BlockTemplate.TitleCase
import BlockTemplate.TitleCase.Vocabulary
import BlockTemplate.Token
import BlockTemplate.Token.Escape
import BlockTemplate.Token.Json
import BlockTemplate.Token.Markers
import BlockTemplate.Token.Scanner
import BlockTemplate.Toml.Lexical
import BlockTemplate.Toml.Reader
import BlockTemplate.Toml.Tree
import BlockTemplate.Value
import BlockTemplate.Value.Json
import BlockTemplate.Value.Text
