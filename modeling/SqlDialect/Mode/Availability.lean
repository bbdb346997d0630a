import SqlDialect.Family
import SqlDialect.Mode.Basic
import SqlDialect.Timeline

/-!
# The flags that a version knows

MySQL 8.0 dropped the flags of the foreign dialects and of the old account
syntax; each family has flags that the other one lacks.
-/

namespace SqlDialect

namespace ModeFlag

def mysqlTimeline : Timeline ModeFlag :=
  [.always .realAsFloat, .always .pipesAsConcat, .always .ansiQuotes, .always .ignoreSpace,
   .upTo .notUsed 79999, .always .onlyFullGroupBy, .always .noUnsignedSubtraction,
   .always .noDirInCreate, .upTo .postgresql 79999, .upTo .oracle 79999, .upTo .mssql 79999,
   .upTo .db2 79999, .upTo .maxdb 79999, .upTo .noKeyOptions 79999, .upTo .noTableOptions 79999,
   .upTo .noFieldOptions 79999, .upTo .mysql323 79999, .upTo .mysql40 79999, .always .ansi,
   .always .noAutoValueOnZero, .always .noBackslashEscapes, .always .strictTransTables,
   .always .strictAllTables, .always .noZeroInDate, .always .noZeroDate, .always .invalidDates,
   .always .errorForDivisionByZero, .always .traditional, .upTo .noAutoCreateUser 79999,
   .always .highNotPrecedence, .always .noEngineSubstitution, .always .padCharToFullLength,
   .since .timeTruncateFractional 80000]

def mariaDbTimeline : Timeline ModeFlag :=
  [.always .realAsFloat, .always .pipesAsConcat, .always .ansiQuotes, .always .ignoreSpace,
   .always .notUsed, .always .onlyFullGroupBy, .always .noUnsignedSubtraction,
   .always .noDirInCreate, .always .postgresql, .always .oracle, .always .mssql, .always .db2,
   .always .maxdb, .always .noKeyOptions, .always .noTableOptions, .always .noFieldOptions,
   .always .mysql323, .always .mysql40, .always .ansi, .always .noAutoValueOnZero,
   .always .noBackslashEscapes, .always .strictTransTables, .always .strictAllTables,
   .always .noZeroInDate, .always .noZeroDate, .always .invalidDates,
   .always .errorForDivisionByZero, .always .traditional, .always .noAutoCreateUser,
   .always .highNotPrecedence, .always .noEngineSubstitution, .always .padCharToFullLength,
   .since .emptyStringIsNull 100300, .since .simultaneousAssignment 100305,
   .since .timeRoundFractional 100601]

end ModeFlag

namespace Family

/-- The flags of the family and their versions; the standard has no modes. -/
def modeTimeline? : Family → Option (Timeline ModeFlag)
  | .mysql => some ModeFlag.mysqlTimeline
  | .mariaDb => some ModeFlag.mariaDbTimeline
  | .standard => none

end Family

namespace Mode

/-- The given flags that the version `target` of the family does not know, by
rising bit. A family without modes objects to none. -/
def unsupportedIn (m : Mode) (family : Family) (target : VersionId) : List ModeFlag :=
  match family.modeTimeline? with
  | some timeline => m.flags.filter fun f => !(timeline.activeAt target).contains f
  | none => []

end Mode

end SqlDialect
