import RecordMapper.Calendar.Date
import RecordMapper.Calendar.Duration
import RecordMapper.Calendar.Moment
import RecordMapper.Calendar.Pattern
import RecordMapper.Calendar.Text
import RecordMapper.Connection.Basic
import RecordMapper.Dialect.Basic
import RecordMapper.Dialect.MySql
import RecordMapper.Dialect.Plain
import RecordMapper.Dialect.Postgres
import RecordMapper.Dialect.Registry
import RecordMapper.Dialect.Sqlite
import RecordMapper.Error
import RecordMapper.FieldTag
import RecordMapper.Filter.Basic
import RecordMapper.Filter.Condition
import RecordMapper.Json.Reading
import RecordMapper.Log
import RecordMapper.Migration.History
import RecordMapper.Migration.Run
import RecordMapper.Migration.Script
import RecordMapper.Migration.Table
import RecordMapper.Model.Basic
import RecordMapper.Model.Descriptor
import RecordMapper.Naming.Plural
import RecordMapper.Naming.SnakeCase
import RecordMapper.Naming.Strategy
import RecordMapper.Number.Binary
import RecordMapper.Number.Decimal
import RecordMapper.Page.Basic
import RecordMapper.Page.Request
import RecordMapper.Program.Basic
import RecordMapper.Program.Operation
import RecordMapper.Query.Basic
import RecordMapper.Query.Create
import RecordMapper.Query.Hooks
import RecordMapper.Query.Load
import RecordMapper.Query.Modify
import RecordMapper.Query.Statements
import RecordMapper.Record.Basic
import RecordMapper.Record.Loading
import RecordMapper.Rehearsal.Environment
import RecordMapper.Rehearsal.Step
import RecordMapper.Rehearsal.World
import RecordMapper.Schema.Cache
import RecordMapper.Schema.Parser
import RecordMapper.Statement.Basic
import RecordMapper.Statement.Binding
import RecordMapper.Text.Alphanumeric
import RecordMapper.Text.Blank
import RecordMapper.Text.Hexadecimal
import RecordMapper.Text.LetterCase
import RecordMapper.Text.Numeral
import RecordMapper.Text.Quoted
import RecordMapper.Text.Stretch
import RecordMapper.Uuid
import RecordMapper.Value.Basic
import RecordMapper.Value.ColumnType
import RecordMapper.Value.Conversion
import RecordMapper.Value.Kind
import RecordMapper.Wire.Basic
import RecordMapper.Wire.Decoding
import RecordMapper.Proofs.Calendar.RoundTrip
import RecordMapper.Proofs.Dialect.Lawful
import RecordMapper.Proofs.Filter.Carrying
import RecordMapper.Proofs.Filter.Meaning
import RecordMapper.Proofs.Outcome
import RecordMapper.Proofs.Program.Blame
import RecordMapper.Proofs.Program.Operation
import RecordMapper.Proofs.Program.Transcript
import RecordMapper.Proofs.Query.Alignment
import RecordMapper.Proofs.Query.CallerFaults
import RecordMapper.Proofs.Query.Collecting
import RecordMapper.Proofs.Query.Composition
import RecordMapper.Proofs.Query.Endings
import RecordMapper.Proofs.Query.HalfDone
import RecordMapper.Proofs.Query.Hooks
import RecordMapper.Proofs.Query.KeyedWrites
import RecordMapper.Proofs.Query.Keys
import RecordMapper.Proofs.Query.Plans
import RecordMapper.Proofs.Query.SameShape
import RecordMapper.Proofs.Query.Sending
import RecordMapper.Proofs.Record.Overwriting
import RecordMapper.Proofs.Record.RoundTrip
import RecordMapper.Proofs.Schema.Accepted
import RecordMapper.Proofs.Schema.Resolved
import RecordMapper.Proofs.Sql.Edges
import RecordMapper.Proofs.Sql.Lexer
import RecordMapper.Proofs.Sql.Where
import RecordMapper.Proofs.Statement.Fragments
import RecordMapper.Proofs.Statement.Reading
import RecordMapper.Proofs.Uuid
import RecordMapper.Proofs.Value.Coercion
import RecordMapper.Proofs.Value.Transport
import RecordMapper.Proofs.Schema.Lawful
import RecordMapper.Proofs.Schema.Acceptance
import RecordMapper.Proofs.Schema.WellFormed
import RecordMapper.Proofs.Program.Alike
import RecordMapper.Proofs.Query.Framing
import RecordMapper.Proofs.Query.HookCalls
import RecordMapper.Proofs.Query.HookDiscipline
import RecordMapper.Proofs.Program.Replay
import RecordMapper.Proofs.Migration.Server
import RecordMapper.Proofs.Migration.Course
import RecordMapper.Proofs.Migration.InStep
import RecordMapper.Proofs.Page.Windows
import RecordMapper.Proofs.Value.StoredText
import RecordMapper.Proofs.Calendar.Order
import RecordMapper.Proofs.Filter.Splitting
import RecordMapper.Proofs.Statement.Listed
import RecordMapper.Proofs.Filter.Absence
import RecordMapper.Proofs.Query.Settings
import RecordMapper.Proofs.Query.ChangedRecord
import RecordMapper.Proofs.Query.Inserting
import RecordMapper.Proofs.Query.Insertion
import RecordMapper.Proofs.Schema.Memberships
import RecordMapper.Proofs.Schema.BareIndexes
import RecordMapper.Proofs.Record.Cells
import RecordMapper.Proofs.Query.Reloading
import RecordMapper.Proofs.Query.LoadedRows
import RecordMapper.Proofs.FieldTag
import RecordMapper.Proofs.FieldTag.Joining
import RecordMapper.Proofs.FieldTag.Spelling
import RecordMapper.Proofs.Query.SameRows
import RecordMapper.Proofs.Sql.QuotedName
import RecordMapper.Proofs.Sql.Definitions
import RecordMapper.Proofs.Text.Pieces
import RecordMapper.Proofs.Text.Trimming
import RecordMapper.Proofs.Text.LowerCase
import RecordMapper.Proofs.Text.Lines
import RecordMapper.Proofs.Migration.Lines
import RecordMapper.Proofs.Migration.Acceptance
import RecordMapper.Proofs.Migration.Blocks
import RecordMapper.Proofs.Migration.Statements
import RecordMapper.Proofs.Migration.Tables
import RecordMapper.Proofs.Value.Members
import RecordMapper.Proofs.Migration.Unmappable
import RecordMapper.Proofs.Migration.ColumnTypes
import RecordMapper.Proofs.Value.ShownText
import RecordMapper.Proofs.Query.WholeNumbers
import RecordMapper.Proofs.Query.Example
import RecordMapper.Proofs.Migration.Queue
import RecordMapper.Proofs.Text.Bytes
import RecordMapper.Proofs.Dialect.WriteOnce
import RecordMapper.Proofs.Naming.Truncation
import RecordMapper.Proofs.Schema.SharedNames
