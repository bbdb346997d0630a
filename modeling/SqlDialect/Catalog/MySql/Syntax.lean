import SqlDialect.DataType
import SqlDialect.Timeline

/-!
# Operators, types and statements of MySQL

The operators as they are spelled, the names of data types, and the statements
that can be prepared, with their versions.
-/

namespace SqlDialect.Catalog.MySql

def operators : Timeline String :=
  [.always ":=", .always "=", .always "<=>", .always "<>", .always "!=", .always "<",
   .always "<=", .always ">", .always ">=", .always "IS", .always "IS NOT", .always "LIKE",
   .always "NOT LIKE", .always "REGEXP", .always "NOT REGEXP", .always "RLIKE",
   .always "NOT RLIKE", .always "SOUNDS LIKE", .always "BETWEEN", .always "NOT BETWEEN",
   .always "IN", .always "NOT IN", .always "+", .always "-", .always "*", .always "/",
   .always "%", .always "DIV", .always "MOD", .always "&", .always "|", .always "^",
   .always "~", .always "<<", .always ">>", .always "!", .always "&&", .always "||",
   .always "AND", .always "OR", .always "XOR", .always "NOT", .always "BINARY",
   .always "COLLATE", .since "->" 50709, .since "->>" 50713, .since "MEMBER OF" 80017]

def types : Timeline DataType :=
  [.always .bit, .always .tinyInt, .always .bool, .always .boolean, .always .smallInt,
   .always .mediumInt, .always .int, .always .integer, .always .bigInt, .always .serial,
   .always .decimal, .always .dec, .always .numeric, .always .fixed, .always .float,
   .always .double, .always .doublePrecision, .always .real, .always .date, .always .time,
   .always .dateTime, .always .timestamp, .always .year, .always .char, .always .character,
   .always .nchar, .always .nationalChar, .always .varchar, .always .characterVarying,
   .always .nvarchar, .always .nationalVarchar, .always .long, .always .longVarchar,
   .always .binary, .always .varBinary, .always .longVarbinary, .always .tinyBlob,
   .always .blob, .always .mediumBlob, .always .longBlob, .always .tinyText, .always .text,
   .always .mediumText, .always .longText, .always .enum, .always .set, .always .geometry,
   .always .point, .always .lineString, .always .polygon, .always .multiPoint,
   .always .multiLineString, .always .multiPolygon, .always .geometryCollection,
   .since .json 50708, .since .vector 90000]

def preparable : Timeline String :=
  [.always "ALTER TABLE", .always "ANALYZE TABLE", .always "CACHE INDEX", .always "CALL",
   .always "CHECKSUM TABLE", .always "COMMIT", .always "CREATE INDEX", .always "CREATE TABLE",
   .always "CREATE USER", .always "CREATE VIEW", .always "DELETE", .always "DO",
   .always "DROP INDEX", .always "DROP TABLE", .always "DROP USER", .always "DROP VIEW",
   .always "FLUSH", .always "GRANT", .always "INSERT", .always "INSTALL PLUGIN", .always "KILL",
   .always "LOAD INDEX INTO CACHE", .always "OPTIMIZE TABLE", .always "RENAME TABLE",
   .always "RENAME USER", .always "REPAIR TABLE", .always "REPLACE", .always "RESET",
   .always "REVOKE", .always "SELECT", .always "SET", .always "SHOW BINLOG EVENTS",
   .always "SHOW CREATE EVENT", .always "SHOW CREATE FUNCTION", .always "SHOW CREATE PROCEDURE",
   .always "SHOW CREATE TABLE", .always "SHOW CREATE VIEW", .always "SHOW ERRORS",
   .always "SHOW MASTER LOGS", .always "SHOW WARNINGS", .always "TRUNCATE TABLE",
   .always "UNINSTALL PLUGIN", .always "UPDATE", .upTo "CHANGE MASTER" 80399,
   .upTo "SHOW SLAVE STATUS" 80399, .since "ALTER USER" 50607, .since "CREATE ROLE" 80000,
   .since "DROP ROLE" 80000, .since "SET ROLE" 80000, .since "SET DEFAULT ROLE" 80000,
   .since "ANALYZE TABLE UPDATE HISTOGRAM" 80002, .since "CHANGE REPLICATION SOURCE" 80023,
   .since "SHOW REPLICA STATUS" 80022]

end SqlDialect.Catalog.MySql
