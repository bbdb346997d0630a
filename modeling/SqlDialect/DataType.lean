import SqlDialect.Text.Ascii
import SqlDialect.Text.Blank

/-!
# Data types

The data types of the MySQL lineage by the names under which a column can be
declared. Several names mean the same type; `canonical` picks one of them.
-/

namespace SqlDialect

inductive DataType where
  | bit | tinyInt | bool | boolean | smallInt | mediumInt | int | integer | bigInt | serial
  | decimal | dec | numeric | fixed | float | double | doublePrecision | real | date | time
  | dateTime | timestamp | year | char | character | nchar | nationalChar | varchar
  | characterVarying | nvarchar | nationalVarchar | long | longVarchar | binary | varBinary
  | longVarbinary | tinyBlob | blob | mediumBlob | longBlob | tinyText | text | mediumText
  | longText | enum | set | json | geometry | point | lineString | polygon | multiPoint
  | multiLineString | multiPolygon | geometryCollection | inet4 | inet6 | uuid | vector
deriving Repr, DecidableEq

namespace DataType

/-- All type names: numbers, dates and times, character strings, byte strings,
large objects, enumerations, documents, shapes, addresses and vectors. -/
def all : List DataType :=
  [.bit, .tinyInt, .bool, .boolean, .smallInt, .mediumInt, .int, .integer, .bigInt, .serial,
   .decimal, .dec, .numeric, .fixed, .float, .double, .doublePrecision, .real, .date, .time,
   .dateTime, .timestamp, .year, .char, .character, .nchar, .nationalChar, .varchar,
   .characterVarying, .nvarchar, .nationalVarchar, .long, .longVarchar, .binary, .varBinary,
   .longVarbinary, .tinyBlob, .blob, .mediumBlob, .longBlob, .tinyText, .text, .mediumText,
   .longText, .enum, .set, .json, .geometry, .point, .lineString, .polygon, .multiPoint,
   .multiLineString, .multiPolygon, .geometryCollection, .inet4, .inet6, .uuid, .vector]

def spelling : DataType → String
  | .bit => "BIT"
  | .tinyInt => "TINYINT"
  | .bool => "BOOL"
  | .boolean => "BOOLEAN"
  | .smallInt => "SMALLINT"
  | .mediumInt => "MEDIUMINT"
  | .int => "INT"
  | .integer => "INTEGER"
  | .bigInt => "BIGINT"
  | .serial => "SERIAL"
  | .decimal => "DECIMAL"
  | .dec => "DEC"
  | .numeric => "NUMERIC"
  | .fixed => "FIXED"
  | .float => "FLOAT"
  | .double => "DOUBLE"
  | .doublePrecision => "DOUBLE PRECISION"
  | .real => "REAL"
  | .date => "DATE"
  | .time => "TIME"
  | .dateTime => "DATETIME"
  | .timestamp => "TIMESTAMP"
  | .year => "YEAR"
  | .char => "CHAR"
  | .character => "CHARACTER"
  | .nchar => "NCHAR"
  | .nationalChar => "NATIONAL CHAR"
  | .varchar => "VARCHAR"
  | .characterVarying => "CHARACTER VARYING"
  | .nvarchar => "NVARCHAR"
  | .nationalVarchar => "NATIONAL VARCHAR"
  | .long => "LONG"
  | .longVarchar => "LONG VARCHAR"
  | .binary => "BINARY"
  | .varBinary => "VARBINARY"
  | .longVarbinary => "LONG VARBINARY"
  | .tinyBlob => "TINYBLOB"
  | .blob => "BLOB"
  | .mediumBlob => "MEDIUMBLOB"
  | .longBlob => "LONGBLOB"
  | .tinyText => "TINYTEXT"
  | .text => "TEXT"
  | .mediumText => "MEDIUMTEXT"
  | .longText => "LONGTEXT"
  | .enum => "ENUM"
  | .set => "SET"
  | .json => "JSON"
  | .geometry => "GEOMETRY"
  | .point => "POINT"
  | .lineString => "LINESTRING"
  | .polygon => "POLYGON"
  | .multiPoint => "MULTIPOINT"
  | .multiLineString => "MULTILINESTRING"
  | .multiPolygon => "MULTIPOLYGON"
  | .geometryCollection => "GEOMETRYCOLLECTION"
  | .inet4 => "INET4"
  | .inet6 => "INET6"
  | .uuid => "UUID"
  | .vector => "VECTOR"

def tag : DataType → String
  | .bit => "Bit"
  | .tinyInt => "TinyInt"
  | .bool => "Bool"
  | .boolean => "Boolean"
  | .smallInt => "SmallInt"
  | .mediumInt => "MediumInt"
  | .int => "Int"
  | .integer => "Integer"
  | .bigInt => "BigInt"
  | .serial => "Serial"
  | .decimal => "Decimal"
  | .dec => "Dec"
  | .numeric => "Numeric"
  | .fixed => "Fixed"
  | .float => "Float"
  | .double => "Double"
  | .doublePrecision => "DoublePrecision"
  | .real => "Real"
  | .date => "Date"
  | .time => "Time"
  | .dateTime => "DateTime"
  | .timestamp => "Timestamp"
  | .year => "Year"
  | .char => "Char"
  | .character => "Character"
  | .nchar => "NChar"
  | .nationalChar => "NationalChar"
  | .varchar => "Varchar"
  | .characterVarying => "CharacterVarying"
  | .nvarchar => "NVarchar"
  | .nationalVarchar => "NationalVarchar"
  | .long => "Long"
  | .longVarchar => "LongVarchar"
  | .binary => "Binary"
  | .varBinary => "VarBinary"
  | .longVarbinary => "LongVarbinary"
  | .tinyBlob => "TinyBlob"
  | .blob => "Blob"
  | .mediumBlob => "MediumBlob"
  | .longBlob => "LongBlob"
  | .tinyText => "TinyText"
  | .text => "Text"
  | .mediumText => "MediumText"
  | .longText => "LongText"
  | .enum => "Enum"
  | .set => "Set"
  | .json => "Json"
  | .geometry => "Geometry"
  | .point => "Point"
  | .lineString => "LineString"
  | .polygon => "Polygon"
  | .multiPoint => "MultiPoint"
  | .multiLineString => "MultiLineString"
  | .multiPolygon => "MultiPolygon"
  | .geometryCollection => "GeometryCollection"
  | .inet4 => "Inet4"
  | .inet6 => "Inet6"
  | .uuid => "Uuid"
  | .vector => "Vector"

/-- The name that stands for all names of the same type. `REAL` means `FLOAT`
when the mode says so and `DOUBLE` otherwise. -/
def canonical (realAsFloat : Bool) : DataType → DataType
  | .bool | .boolean => .tinyInt
  | .integer => .int
  | .dec | .numeric | .fixed => .decimal
  | .doublePrecision => .double
  | .real => if realAsFloat then .float else .double
  | .character | .nchar | .nationalChar => .char
  | .characterVarying | .nvarchar | .nationalVarchar => .varchar
  | .long | .longVarchar => .mediumText
  | .longVarbinary => .mediumBlob
  | .serial => .bigInt
  | t => t

def isAlias (t : DataType) : Bool := t.canonical false != t

def isSpatial : DataType → Bool
  | .geometry | .point | .lineString | .polygon | .multiPoint | .multiLineString
  | .multiPolygon | .geometryCollection => true
  | _ => false

/-- The type with the words of `s`, compared without regard to case; the error
is `s` itself. -/
def parse (s : String) : Except String DataType :=
  match all.find? fun t => Text.sameName t.spelling (Text.singleSpaced s) with
  | some t => .ok t
  | none => .error s

end DataType

end SqlDialect
