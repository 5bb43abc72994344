import SqlStore.ByteStore
import SqlStore.Bytes
import SqlStore.Codec
import SqlStore.Codec.Record
import SqlStore.CommandLine
import SqlStore.Database
import SqlStore.Error
import SqlStore.Key
import SqlStore.Main
import SqlStore.Proofs.Codec.Canonical
import SqlStore.Proofs.Codec.Keys
import SqlStore.Proofs.Codec.RoundTrip
import SqlStore.Proofs.Codec.Utf8
import SqlStore.Proofs.Dump.Rebuild
import SqlStore.Proofs.Dump.Replay
import SqlStore.Proofs.Dump.Script
import SqlStore.Proofs.Grammar.Derives
import SqlStore.Proofs.Grammar.Expressible
import SqlStore.Proofs.Grammar.Extent
import SqlStore.Proofs.Grammar.Literals
import SqlStore.Proofs.Grammar.Numeral
import SqlStore.Proofs.Grammar.Printing
import SqlStore.Proofs.Grammar.ReadBack
import SqlStore.Proofs.Grammar.Recognition
import SqlStore.Proofs.Grammar.Viability
import SqlStore.Proofs.Lexing.Blanks
import SqlStore.Proofs.Lexing.Joining
import SqlStore.Proofs.Lexing.Munch
import SqlStore.Proofs.Lexing.Position
import SqlStore.Proofs.Lexing.Spelling
import SqlStore.Proofs.Lexing.Stuck
import SqlStore.Proofs.Report.Alignment
import SqlStore.Proofs.Result
import SqlStore.Proofs.Shell.LineBreaks
import SqlStore.Proofs.Shell.Lines
import SqlStore.Proofs.Shell.Modes
import SqlStore.Proofs.Shell.Passages
import SqlStore.Proofs.Shell.Reading
import SqlStore.Proofs.Shell.Stretches
import SqlStore.Proofs.Shell.Trimming
import SqlStore.Proofs.Storage.Beginnings
import SqlStore.Proofs.Storage.ByteOrder
import SqlStore.Proofs.Storage.IntegerOrder
import SqlStore.Proofs.Storage.KeyOrder
import SqlStore.Proofs.Storage.KeySpace
import SqlStore.Proofs.Storage.Scan
import SqlStore.Proofs.Tables.Answers
import SqlStore.Proofs.Tables.Capacity
import SqlStore.Proofs.Tables.Catalogue
import SqlStore.Proofs.Tables.Declarations
import SqlStore.Proofs.Tables.EveryColumn
import SqlStore.Proofs.Tables.Failure
import SqlStore.Proofs.Tables.Independence
import SqlStore.Proofs.Tables.Layout
import SqlStore.Proofs.Tables.Projection
import SqlStore.Proofs.Tables.Ranges
import SqlStore.Proofs.Tables.Refinement
import SqlStore.Proofs.Tables.Representation
import SqlStore.Proofs.Tables.Runs
import SqlStore.Proofs.Tables.Safety
import SqlStore.Proofs.Tables.Schemas
import SqlStore.Proofs.Tables.Survival
import SqlStore.Proofs.Tables.WriteOnce
import SqlStore.Report
import SqlStore.Session
import SqlStore.Shell
import SqlStore.Statement
import SqlStore.Statement.Parser
import SqlStore.Table
import SqlStore.Text.Blank
import SqlStore.Text.Case
import SqlStore.Text.CaseTable
import SqlStore.Text.Decimal
import SqlStore.Text.Utf8
import SqlStore.Token
import SqlStore.Token.Lexer
import SqlStore.Value
