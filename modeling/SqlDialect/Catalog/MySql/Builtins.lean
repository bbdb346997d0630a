import SqlDialect.Builtin.Basic
import SqlDialect.Timeline

/-!
# Builtin functions of MySQL

The functions with the versions in which they exist.
-/

namespace SqlDialect.Catalog.MySql

open Builtin (scalar scalarAny aggregate aggregateAny window windowAny tableAny)

def builtins : Timeline Builtin :=
  [ -- aggregate functions
   .always (aggregate "COUNT" .bigInt |>.describedAs "Count the number of rows"),
   .always (aggregate "SUM" .decimal |>.describedAs "Sum of values"),
   .always (aggregate "AVG" .decimal |>.describedAs "Average of values"),
   .always (aggregateAny "MIN" |>.describedAs "Minimum value"),
   .always (aggregateAny "MAX" |>.describedAs "Maximum value"),
   .always (aggregate "GROUP_CONCAT" .text |>.describedAs "Concatenate values from multiple rows"),
   .always (aggregate "BIT_AND" .bigInt), .always (aggregate "BIT_OR" .bigInt),
   .always (aggregate "BIT_XOR" .bigInt), .always (aggregate "STD" .double),
   .always (aggregate "STDDEV" .double), .always (aggregate "STDDEV_POP" .double),
   .always (aggregate "STDDEV_SAMP" .double), .always (aggregate "VARIANCE" .double),
   .always (aggregate "VAR_POP" .double), .always (aggregate "VAR_SAMP" .double),
   .since (aggregateAny "ANY_VALUE") 50705, .since (aggregate "JSON_ARRAYAGG" .json) 50722,
   .since (aggregate "JSON_OBJECTAGG" .json) 50722, .since (scalar "GROUPING" .int) 80001,
   -- numeric functions
   .always (scalarAny "ABS" |>.describedAs "Absolute value"),
   .always (scalar "CEIL" .bigInt |>.describedAs "Round up to nearest integer"),
   .always (scalar "CEILING" .bigInt),
   .always (scalar "FLOOR" .bigInt |>.describedAs "Round down to nearest integer"),
   .always (scalarAny "ROUND" |>.describedAs "Round to nearest decimal"),
   .always (scalarAny "TRUNCATE"), .always (scalarAny "MOD"), .always (scalar "POW" .double),
   .always (scalar "POWER" .double), .always (scalar "SQRT" .double),
   .always (scalar "EXP" .double), .always (scalar "LN" .double),
   .always (scalar "LOG" .double), .always (scalar "LOG2" .double),
   .always (scalar "LOG10" .double), .always (scalar "PI" .double),
   .always (scalar "RAND" .double), .always (scalar "SIGN" .int),
   .always (scalar "CRC32" .bigInt), .always (scalar "CONV" .varchar),
   -- string functions
   .always (scalar "CONCAT" .varchar |>.describedAs "Concatenate strings"),
   .always (scalar "CONCAT_WS" .varchar),
   .always (scalar "SUBSTRING" .varchar |>.describedAs "Extract substring"),
   .always (scalar "SUBSTRING_INDEX" .varchar), .always (scalar "LEFT" .varchar),
   .always (scalar "RIGHT" .varchar),
   .always (scalar "LENGTH" .bigInt |>.describedAs "String length in bytes"),
   .always (scalar "CHAR_LENGTH" .bigInt),
   .always (scalar "UPPER" .varchar |>.describedAs "Convert to uppercase"),
   .always (scalar "LOWER" .varchar |>.describedAs "Convert to lowercase"),
   .always (scalar "TRIM" .varchar |>.describedAs "Remove leading/trailing whitespace"),
   .always (scalar "LTRIM" .varchar), .always (scalar "RTRIM" .varchar),
   .always (scalar "LPAD" .varchar), .always (scalar "RPAD" .varchar),
   .always (scalar "REPLACE" .varchar), .always (scalar "REPEAT" .varchar),
   .always (scalar "REVERSE" .varchar), .always (scalar "LOCATE" .bigInt),
   .always (scalar "INSTR" .bigInt), .always (scalar "FIELD" .bigInt),
   .always (scalar "FIND_IN_SET" .bigInt), .always (scalar "HEX" .varchar),
   .always (scalar "UNHEX" .varBinary), .always (scalar "MD5" .varchar),
   .always (scalar "SHA1" .varchar), .since (scalar "SHA2" .varchar) 50505,
   .since (scalar "TO_BASE64" .text) 50601, .since (scalar "FROM_BASE64" .longBlob) 50601,
   .since (scalar "RANDOM_BYTES" .varBinary) 50617, .since (scalar "REGEXP_LIKE" .int) 80004,
   .since (scalar "REGEXP_INSTR" .bigInt) 80004, .since (scalar "REGEXP_REPLACE" .text) 80004,
   .since (scalar "REGEXP_SUBSTR" .text) 80004,
   -- control flow functions
   .always (scalarAny "COALESCE" |>.describedAs "Return first non-null value"),
   .always (scalarAny "IFNULL" |>.describedAs "Return alternative if null"),
   .always (scalarAny "NULLIF"), .always (scalarAny "IF"), .always (scalarAny "GREATEST"),
   .always (scalarAny "LEAST"),
   -- date/Time functions
   .always (scalar "NOW" .dateTime |>.describedAs "Current date and time"),
   .always (scalar "SYSDATE" .dateTime),
   .always (scalar "CURDATE" .date |>.describedAs "Current date"),
   .always (scalar "CURTIME" .time |>.describedAs "Current time"),
   .always (scalar "UTC_TIMESTAMP" .dateTime),
   .always (scalar "DATE_FORMAT" .varchar |>.describedAs "Format date/time"),
   .always (scalar "STR_TO_DATE" .dateTime),
   .always (scalar "DATE_ADD" .dateTime |>.describedAs "Add time interval"),
   .always (scalar "DATE_SUB" .dateTime |>.describedAs "Subtract time interval"),
   .always (scalar "DATEDIFF" .bigInt |>.describedAs "Difference between dates"),
   .always (scalar "TIMESTAMPDIFF" .bigInt), .always (scalar "UNIX_TIMESTAMP" .bigInt),
   .always (scalar "FROM_UNIXTIME" .dateTime), .always (scalar "CONVERT_TZ" .dateTime),
   .always (scalar "LAST_DAY" .date), .since (scalar "TO_SECONDS" .bigInt) 50500,
   -- encryption and compression
   .always (scalar "AES_ENCRYPT" .varBinary), .always (scalar "AES_DECRYPT" .varBinary),
   .always (scalar "COMPRESS" .varBinary), .always (scalar "UNCOMPRESS" .longBlob),
   .upTo (scalar "PASSWORD" .varchar) 80010, .upTo (scalar "OLD_PASSWORD" .varchar) 50704,
   .upTo (scalar "ENCRYPT" .varchar) 80002, .upTo (scalar "ENCODE" .varBinary) 80002,
   .upTo (scalar "DECODE" .varBinary) 80002, .upTo (scalar "DES_ENCRYPT" .varBinary) 80002,
   .upTo (scalar "DES_DECRYPT" .varBinary) 80002,
   -- information and miscellaneous functions
   .always (scalar "DATABASE" .varchar), .always (scalar "USER" .varchar),
   .always (scalar "CURRENT_USER" .varchar), .always (scalar "VERSION" .varchar),
   .always (scalar "CONNECTION_ID" .bigInt), .always (scalar "LAST_INSERT_ID" .bigInt),
   .always (scalar "FOUND_ROWS" .bigInt), .always (scalar "ROW_COUNT" .bigInt),
   .always (scalar "UUID" .varchar), .always (scalar "UUID_SHORT" .bigInt),
   .always (scalar "SLEEP" .int), .always (scalar "GET_LOCK" .int),
   .always (scalar "RELEASE_LOCK" .int), .always (scalar "INET_ATON" .bigInt),
   .always (scalar "INET_NTOA" .varchar), .since (scalar "INET6_ATON" .varBinary) 50603,
   .since (scalar "INET6_NTOA" .varchar) 50603, .since (scalar "IS_IPV4" .int) 50603,
   .since (scalar "IS_IPV6" .int) 50603, .since (scalar "GTID_SUBSET" .int) 50605,
   .since (scalar "GTID_SUBTRACT" .text) 50605,
   .since (scalar "WAIT_FOR_EXECUTED_GTID_SET" .int) 50705,
   .since (scalar "UUID_TO_BIN" .varBinary) 80000, .since (scalar "BIN_TO_UUID" .varchar) 80000,
   .since (scalar "IS_UUID" .int) 80000, .since (scalar "CURRENT_ROLE" .varchar) 80000,
   .since (scalar "ICU_VERSION" .varchar) 80004,
   .since (scalar "STATEMENT_DIGEST" .varchar) 80004,
   .since (scalar "STATEMENT_DIGEST_TEXT" .longText) 80004,
   -- spatial functions
   .since (scalar "ST_GEOMFROMTEXT" .geometry) 50601,
   .since (scalar "ST_ASTEXT" .longText) 50601, .since (scalar "ST_DISTANCE" .double) 50606,
   .since (scalar "ST_DISTANCE_SPHERE" .double) 50706, .since (scalar "ST_X" .double) 50601,
   .since (scalar "ST_Y" .double) 50601, .upTo (scalar "ASTEXT" .longText) 80000,
   .upTo (scalar "GEOMFROMTEXT" .geometry) 80000, .upTo (scalar "GLENGTH" .double) 80000,
   -- JSON functions
   .since (scalar "JSON_ARRAY" .json) 50708, .since (scalar "JSON_OBJECT" .json) 50708,
   .since (scalar "JSON_QUOTE" .json) 50708, .since (scalar "JSON_CONTAINS" .int) 50708,
   .since (scalar "JSON_CONTAINS_PATH" .int) 50708, .since (scalar "JSON_EXTRACT" .json) 50708,
   .since (scalar "JSON_KEYS" .json) 50708, .since (scalar "JSON_SEARCH" .json) 50708,
   .since (scalar "JSON_SET" .json) 50708, .since (scalar "JSON_INSERT" .json) 50708,
   .since (scalar "JSON_REPLACE" .json) 50708, .since (scalar "JSON_REMOVE" .json) 50708,
   .since (scalar "JSON_ARRAY_APPEND" .json) 50708,
   .since (scalar "JSON_ARRAY_INSERT" .json) 50708,
   .between (scalar "JSON_MERGE" .json) 50708 80002,
   .since (scalar "JSON_MERGE_PATCH" .json) 50722,
   .since (scalar "JSON_MERGE_PRESERVE" .json) 50722,
   .since (scalar "JSON_TYPE" .varchar) 50708, .since (scalar "JSON_VALID" .int) 50708,
   .since (scalar "JSON_LENGTH" .int) 50708, .since (scalar "JSON_DEPTH" .int) 50708,
   .since (scalar "JSON_UNQUOTE" .longText) 50708,
   .since (scalar "JSON_PRETTY" .longText) 50722,
   .since (scalar "JSON_STORAGE_SIZE" .int) 50722,
   .since (scalar "JSON_STORAGE_FREE" .int) 80002, .since (scalar "JSON_OVERLAPS" .int) 80017,
   .since (scalar "JSON_SCHEMA_VALID" .int) 80017,
   .since (scalar "JSON_SCHEMA_VALIDATION_REPORT" .json) 80017,
   .since (scalarAny "JSON_VALUE") 80021, .since (tableAny "JSON_TABLE") 80004,
   -- window functions (MySQL 8.0+)
   .since (window "ROW_NUMBER" .bigInt |>.describedAs "Row number within partition") 80002,
   .since (window "RANK" .bigInt |>.describedAs "Rank within partition") 80002,
   .since (window "DENSE_RANK" .bigInt |>.describedAs "Dense rank within partition") 80002,
   .since (window "PERCENT_RANK" .double) 80002, .since (window "CUME_DIST" .double) 80002,
   .since (window "NTILE" .bigInt) 80002,
   .since (windowAny "LAG" |>.describedAs "Value from previous row") 80002,
   .since (windowAny "LEAD" |>.describedAs "Value from next row") 80002,
   .since (windowAny "FIRST_VALUE") 80002, .since (windowAny "LAST_VALUE") 80002,
   .since (windowAny "NTH_VALUE") 80002]

end SqlDialect.Catalog.MySql
