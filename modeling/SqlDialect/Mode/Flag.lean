import SqlDialect.Text.Ascii
import SqlDialect.Text.Blank

/-!
# Mode flags

A SQL mode is made of flags, each with a bit of its own (`index`). Some flags
are *groups*: they stand for a fixed set of other flags (`expansion`). No member
of a group is a group itself.
-/

namespace SqlDialect

inductive ModeFlag where
  | realAsFloat | pipesAsConcat | ansiQuotes | ignoreSpace | notUsed | onlyFullGroupBy
  | noUnsignedSubtraction | noDirInCreate | postgresql | oracle | mssql | db2 | maxdb
  | noKeyOptions | noTableOptions | noFieldOptions | mysql323 | mysql40 | ansi
  | noAutoValueOnZero | noBackslashEscapes | strictTransTables | strictAllTables | noZeroInDate
  | noZeroDate | invalidDates | errorForDivisionByZero | traditional | noAutoCreateUser
  | highNotPrecedence | noEngineSubstitution | padCharToFullLength | timeTruncateFractional
  | emptyStringIsNull | simultaneousAssignment | timeRoundFractional
deriving Repr, DecidableEq

namespace ModeFlag

/-- All flags, by rising bit. -/
def all : List ModeFlag :=
  [.realAsFloat, .pipesAsConcat, .ansiQuotes, .ignoreSpace, .notUsed, .onlyFullGroupBy,
   .noUnsignedSubtraction, .noDirInCreate, .postgresql, .oracle, .mssql, .db2, .maxdb,
   .noKeyOptions, .noTableOptions, .noFieldOptions, .mysql323, .mysql40, .ansi,
   .noAutoValueOnZero, .noBackslashEscapes, .strictTransTables, .strictAllTables, .noZeroInDate,
   .noZeroDate, .invalidDates, .errorForDivisionByZero, .traditional, .noAutoCreateUser,
   .highNotPrecedence, .noEngineSubstitution, .padCharToFullLength, .timeTruncateFractional,
   .emptyStringIsNull, .simultaneousAssignment, .timeRoundFractional]

/-- The number of the bit of the flag. -/
def index : ModeFlag → Nat
  | .realAsFloat => 0
  | .pipesAsConcat => 1
  | .ansiQuotes => 2
  | .ignoreSpace => 3
  | .notUsed => 4
  | .onlyFullGroupBy => 5
  | .noUnsignedSubtraction => 6
  | .noDirInCreate => 7
  | .postgresql => 8
  | .oracle => 9
  | .mssql => 10
  | .db2 => 11
  | .maxdb => 12
  | .noKeyOptions => 13
  | .noTableOptions => 14
  | .noFieldOptions => 15
  | .mysql323 => 16
  | .mysql40 => 17
  | .ansi => 18
  | .noAutoValueOnZero => 19
  | .noBackslashEscapes => 20
  | .strictTransTables => 21
  | .strictAllTables => 22
  | .noZeroInDate => 23
  | .noZeroDate => 24
  | .invalidDates => 25
  | .errorForDivisionByZero => 26
  | .traditional => 27
  | .noAutoCreateUser => 28
  | .highNotPrecedence => 29
  | .noEngineSubstitution => 30
  | .padCharToFullLength => 31
  | .timeTruncateFractional => 32
  | .emptyStringIsNull => 33
  | .simultaneousAssignment => 34
  | .timeRoundFractional => 35

def name : ModeFlag → String
  | .realAsFloat => "REAL_AS_FLOAT"
  | .pipesAsConcat => "PIPES_AS_CONCAT"
  | .ansiQuotes => "ANSI_QUOTES"
  | .ignoreSpace => "IGNORE_SPACE"
  | .notUsed => "NOT_USED"
  | .onlyFullGroupBy => "ONLY_FULL_GROUP_BY"
  | .noUnsignedSubtraction => "NO_UNSIGNED_SUBTRACTION"
  | .noDirInCreate => "NO_DIR_IN_CREATE"
  | .postgresql => "POSTGRESQL"
  | .oracle => "ORACLE"
  | .mssql => "MSSQL"
  | .db2 => "DB2"
  | .maxdb => "MAXDB"
  | .noKeyOptions => "NO_KEY_OPTIONS"
  | .noTableOptions => "NO_TABLE_OPTIONS"
  | .noFieldOptions => "NO_FIELD_OPTIONS"
  | .mysql323 => "MYSQL323"
  | .mysql40 => "MYSQL40"
  | .ansi => "ANSI"
  | .noAutoValueOnZero => "NO_AUTO_VALUE_ON_ZERO"
  | .noBackslashEscapes => "NO_BACKSLASH_ESCAPES"
  | .strictTransTables => "STRICT_TRANS_TABLES"
  | .strictAllTables => "STRICT_ALL_TABLES"
  | .noZeroInDate => "NO_ZERO_IN_DATE"
  | .noZeroDate => "NO_ZERO_DATE"
  | .invalidDates => "INVALID_DATES"
  | .errorForDivisionByZero => "ERROR_FOR_DIVISION_BY_ZERO"
  | .traditional => "TRADITIONAL"
  | .noAutoCreateUser => "NO_AUTO_CREATE_USER"
  | .highNotPrecedence => "HIGH_NOT_PRECEDENCE"
  | .noEngineSubstitution => "NO_ENGINE_SUBSTITUTION"
  | .padCharToFullLength => "PAD_CHAR_TO_FULL_LENGTH"
  | .timeTruncateFractional => "TIME_TRUNCATE_FRACTIONAL"
  | .emptyStringIsNull => "EMPTY_STRING_IS_NULL"
  | .simultaneousAssignment => "SIMULTANEOUS_ASSIGNMENT"
  | .timeRoundFractional => "TIME_ROUND_FRACTIONAL"

/-- The flags that a group stands for, in the order in which they are declared;
empty for a flag that is no group. -/
def expansion : ModeFlag → List ModeFlag
  | .ansi => [.realAsFloat, .pipesAsConcat, .ansiQuotes, .ignoreSpace, .onlyFullGroupBy]
  | .traditional =>
    [.strictTransTables, .strictAllTables, .noZeroInDate, .noZeroDate, .errorForDivisionByZero,
     .noAutoCreateUser, .noEngineSubstitution]
  | .db2 | .mssql | .postgresql =>
    [.pipesAsConcat, .ansiQuotes, .ignoreSpace, .noKeyOptions, .noTableOptions, .noFieldOptions]
  | .maxdb | .oracle =>
    [.pipesAsConcat, .ansiQuotes, .ignoreSpace, .noKeyOptions, .noTableOptions, .noFieldOptions,
     .noAutoCreateUser]
  | .mysql323 | .mysql40 => [.highNotPrecedence]
  | _ => []

def isGroup (f : ModeFlag) : Bool := !f.expansion.isEmpty

/-- Is the flag kept only for its place among the bits? -/
def isDeprecated (f : ModeFlag) : Bool := f == .notUsed

/-- The flag of a name, up to case and surrounding blanks. -/
def named? (name : String) : Option ModeFlag :=
  all.find? fun f => Text.sameName f.name (Text.trimmed name)

end ModeFlag

end SqlDialect
