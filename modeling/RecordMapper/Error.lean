/-
This file lists everything that can go wrong, as causes with the data that belong to them, and
says each one's wording in one place. Errors fall into five families: the record definition is
wrong, the call is wrong, a lookup found nothing, the database failed, and the rest. Failures of
the database are known by what it reports; an operation that meets one adds its own name and the
record's.
-/

import RecordMapper.Calendar.Duration
import RecordMapper.Value.Basic
import RecordMapper.Value.ColumnType
import RecordMapper.Wire.Basic

namespace RecordMapper

open RecordMapper.Calendar RecordMapper.Text

/-! ### Causes -/

/-- What is wrong with a field's tag. -/
inductive TagFault
  | notANumber (key value : String)
  | stated (text : String)
  deriving DecidableEq

/-- Why a field has no column type. -/
inductive TypeFault
  | unmapped (product kindName : String)
  | notAnInteger (kind : Kind)
  | strayGeneratedKey
  | stated (text : String)
  deriving DecidableEq

/-- What is wrong with a record description as a whole. -/
inductive RecordFault
  | unnamed
  | unmapped (record : String)
  | stated (text : String)
  deriving DecidableEq

/-- What is wrong with an argument. -/
inductive ArgumentFault
  | nothingToUpdate (record : String)
  | sectionInBlock (line : Nat)
  | unknownDirective (line : Nat) (directive : String)
  | beforeSection (line : Nat)
  | openBlock
  | noUpSection
  | stated (text : String)
  deriving DecidableEq

/-- What is wrong with a filter. -/
inductive FilterFault
  | noColumn (key : String)
  | wrongShape (key : String)
  | comparesWithNull (column : String)
  | stated (text : String)
  deriving DecidableEq

/-- What is wrong with a connection's configuration. -/
inductive SetupFault
  | unnamedDialect
  | takenDialect (name : String)
  | unknownDialect (name : String)
  | noScheme (url : String)
  | stated (text : String)
  deriving DecidableEq

/-- Why a value cannot be taken for a value of another type. -/
inductive ConversionFault
  | mismatch (value : Value) (target : ScalarType)
  | outOfRange (number : Int) (target : IntegerType)
  | uuidText (text : String) (defect : Uuid.Defect)
  | uuidBytes (defect : Uuid.Defect)
  | dateText (text : String)
  | timeText (text : String) (fault : Fault)
  | dateTimeText (text : String)
  | instantText (text : String)
  | inField (record field : String) (fault : ConversionFault)
  | unbindable (value : Value)
  | uncounted
  | stated (text : String)
  deriving DecidableEq

/-- What the database or the way to it reports. -/
inductive DatabaseFault
  | refused (text : String)
  | rowMissing
  | poolClosed
  | poolTimedOut
  /-- A cell was wanted as one kind and holds another. -/
  | unreadable (column : Nat) (wanted found : WireKind)
  /-- A row has fewer cells than were asked for. -/
  | outOfColumns (column width : Nat)
  deriving DecidableEq

/-! ### Errors -/

/-- Every way in which an operation of the library fails. -/
inductive Error
  | badTag (record field : String) (fault : TagFault)
  | duplicateColumn (record column first second : String)
  | indexConflict (record index : String)
  | unsupportedType (record field : String) (fault : TypeFault)
  | invalidRecord (fault : RecordFault)
  | invalidArgument (fault : ArgumentFault)
  | missingPrimaryKey (record operation : String)
  | zeroPrimaryKey (record field operation : String)
  | unknownColumn (record column : String)
  | unsupportedFilter (fault : FilterFault)
  | notFound (record : String)
  | execution (operation record : String) (fault : DatabaseFault)
  | database (fault : DatabaseFault)
  | timeout (limit : Duration)
  | conversion (fault : ConversionFault)
  | configuration (fault : SetupFault)
  deriving DecidableEq

/-- The family of an error. -/
inductive ErrorFamily
  | schema
  | usage
  | notFound
  | execution
  | other
  deriving DecidableEq

/-- The word for a family. -/
def ErrorFamily.word : ErrorFamily → String
  | .schema => "Schema"
  | .usage => "Usage"
  | .notFound => "NotFound"
  | .execution => "Execution"
  | .other => "Other"

/-! ### Wording -/

/-- The wording of a tag's fault. -/
def TagFault.message : TagFault → String
  | .notANumber key value => "`" ++ key ++ "` expects a non-negative integer, got `" ++ value ++ "`"
  | .stated text => text

/-- The wording of a type's fault. -/
def TypeFault.message : TypeFault → String
  | .unmapped product kindName =>
    "no " ++ product ++ " type for `" ++ kindName ++ "`; add a `type:` annotation"
  | .notAnInteger kind => "autoIncrement requires an integer field, found " ++ kind.shown
  | .strayGeneratedKey => "SQLite supports AUTOINCREMENT only on a single INTEGER PRIMARY KEY"
  | .stated text => text

/-- The wording of a record's fault. -/
def RecordFault.message : RecordFault → String
  | .unnamed => "record type has no name"
  | .unmapped record => record ++ " maps no fields"
  | .stated text => text

/-- The wording of an argument's fault. -/
def ArgumentFault.message : ArgumentFault → String
  | .nothingToUpdate record => "updates on " ++ record ++ " has no updatable columns"
  | .sectionInBlock line =>
    "line " ++ naturalText line ++ ": section marker inside a StatementBegin block"
  | .unknownDirective line directive =>
    "line " ++ naturalText line ++ ": unknown migration directive `" ++ directive ++ "`"
  | .beforeSection line =>
    "line " ++ naturalText line ++ ": statement before any `-- +migrate Up` / `Down` marker"
  | .openBlock => "unterminated StatementBegin block"
  | .noUpSection => "migration has no `-- +migrate Up` section"
  | .stated text => text

/-- The wording of a filter's fault. -/
def FilterFault.message : FilterFault → String
  | .noColumn key => "filter key `" ++ key ++ "` names no column"
  | .wrongShape key => "operand of `" ++ key ++ "` has the wrong shape for its operator"
  | .comparesWithNull column => "`" ++ column ++ "` compared with NULL; use IS NULL / IS NOT NULL"
  | .stated text => text

/-- The wording of a configuration's fault. -/
def SetupFault.message : SetupFault → String
  | .unnamedDialect => "dialect name must not be empty"
  | .takenDialect name => "dialect `" ++ name ++ "` is already registered"
  | .unknownDialect name => "no dialect registered for `" ++ name ++ "`"
  | .noScheme url => "connection URL `" ++ url ++ "` has no scheme"
  | .stated text => text

/-- What stands in front of the wording of every failed conversion. -/
def conversionLead : String := "Type conversion error: "

/-- The wording of a failed conversion. -/
def ConversionFault.message : ConversionFault → String
  | .mismatch value target =>
    "cannot convert " ++ value.variant ++ " value `" ++ value.shown ++ "` into " ++ target.label
  | .outOfRange number target => integerText number ++ " is out of range for " ++ target.label
  | .uuidText text defect => "Failed to parse UUID `" ++ text ++ "`: " ++ defect.message
  | .uuidBytes defect => "Failed to read UUID bytes: " ++ defect.message
  | .dateText text => "Failed to parse NaiveDate from `" ++ text ++ "`"
  | .timeText text fault => "Failed to parse NaiveTime from `" ++ text ++ "`: " ++ fault.message
  | .dateTimeText text => "Failed to parse NaiveDateTime from `" ++ text ++ "`"
  | .instantText text => "Failed to parse DateTime<Utc> from `" ++ text ++ "`"
  | .inField record field fault => record ++ "." ++ field ++ ": " ++ conversionLead ++ fault.message
  | .unbindable value => "cannot bind `" ++ value.shown ++ "` as text"
  | .uncounted => "COUNT(*) did not return an integer"
  | .stated text => text

/-- The host type by which a cell of a kind is read, in a connection's messages. -/
def WireKind.hostName : WireKind → String
  | .bool => "bool"
  | .smallInt => "i16"
  | .int => "i32"
  | .bigInt => "i64"
  | .real => "f32"
  | .double => "f64"
  | .text => "alloc::string::String"
  | .blob => "alloc::vec::Vec<u8>"

/-- The wording of what the database reports. -/
def DatabaseFault.message : DatabaseFault → String
  | .refused text => "error returned from database: " ++ text
  | .rowMissing => "no rows returned by a query that expected to return at least one row"
  | .poolClosed => "attempted to acquire a connection on a closed pool"
  | .poolTimedOut => "pool timed out while waiting for an open connection"
  | .unreadable column wanted found =>
    "error occurred while decoding column " ++ naturalText column ++
      ": mismatched types; Rust type `" ++ wanted.hostName ++
      "` is not compatible with SQL type `" ++ found.columnName ++ "`"
  | .outOfColumns column width =>
    "column index out of bounds: the len is " ++ naturalText width ++ ", but the index is " ++
      naturalText column

namespace Error

/-- The wording of an error. -/
def message : Error → String
  | .badTag record field fault =>
    "invalid annotation on " ++ record ++ "." ++ field ++ ": " ++ fault.message
  | .duplicateColumn record column first second =>
    "duplicate column `" ++ column ++ "` in " ++ record ++ " (fields `" ++ first ++ "` and `" ++
      second ++ "`)"
  | .indexConflict record index =>
    "index `" ++ index ++ "` on " ++ record ++ " is declared both unique and non-unique"
  | .unsupportedType record field fault =>
    "unsupported column type for " ++ record ++ "." ++ field ++ ": " ++ fault.message
  | .invalidRecord fault => "invalid record: " ++ fault.message
  | .invalidArgument fault => "Invalid argument: " ++ fault.message
  | .missingPrimaryKey record operation => record ++ " has no usable primary key for " ++ operation
  | .zeroPrimaryKey record field operation =>
    "primary key field `" ++ field ++ "` of " ++ record ++
      " holds its default value; refusing to " ++ operation
  | .unknownColumn record column => "unknown column `" ++ column ++ "` for " ++ record
  | .unsupportedFilter fault => "unsupported filter: " ++ fault.message
  | .notFound record => record ++ ": record not found"
  | .execution operation record fault => operation ++ " " ++ record ++ " failed: " ++ fault.message
  | .database fault => "Database error: " ++ fault.message
  | .timeout limit => "statement timed out after " ++ limit.text
  | .conversion fault => conversionLead ++ fault.message
  | .configuration fault => "configuration error: " ++ fault.message

/-- The family that an error belongs to. -/
def family : Error → ErrorFamily
  | .badTag .. | .duplicateColumn .. | .indexConflict .. | .unsupportedType ..
  | .invalidRecord _ => .schema
  | .invalidArgument _ | .missingPrimaryKey .. | .zeroPrimaryKey .. | .unknownColumn ..
  | .unsupportedFilter _ => .usage
  | .notFound _ => .notFound
  | .execution .. | .database _ => .execution
  | .timeout _ | .conversion _ | .configuration _ => .other

/-- Whether a lookup found nothing. -/
def isNotFound : Error → Bool
  | .notFound _ => true
  | _ => false

/-- Adds an operation and its record to a failure of the database; other errors stay as they are. -/
def during (operation record : String) : Error → Error
  | .database fault => .execution operation record fault
  | error => error

end Error

end RecordMapper
