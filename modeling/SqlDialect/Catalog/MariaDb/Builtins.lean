import SqlDialect.Builtin.Basic
import SqlDialect.Timeline

/-!
# Builtin functions of MariaDB

The functions that MariaDB adds to the MySQL version that it stands on, with
their versions. All ids are ids of MariaDB.
-/

namespace SqlDialect.Catalog.MariaDb

open Builtin (scalar scalarAny aggregate aggregateAny window windowAny tableAny)

def builtins : Timeline Builtin :=
  [ -- dynamic columns
   .since (scalar "COLUMN_CREATE" .blob) 50300, .since (scalar "COLUMN_ADD" .blob) 50300,
   .since (scalar "COLUMN_DELETE" .blob) 50300, .since (scalar "COLUMN_EXISTS" .int) 50300,
   .since (scalar "COLUMN_LIST" .text) 50300, .since (scalarAny "COLUMN_GET") 50300,
   .since (scalar "COLUMN_CHECK" .int) 100002, .since (scalar "COLUMN_JSON" .text) 100002,
   -- regular expressions
   .since (scalar "REGEXP_REPLACE" .text) 100005, .since (scalar "REGEXP_INSTR" .bigInt) 100005,
   .since (scalar "REGEXP_SUBSTR" .text) 100005,
   -- window functions
   .since (window "ROW_NUMBER" .bigInt) 100200, .since (window "RANK" .bigInt) 100200,
   .since (window "DENSE_RANK" .bigInt) 100200, .since (window "PERCENT_RANK" .double) 100200,
   .since (window "CUME_DIST" .double) 100200, .since (window "NTILE" .bigInt) 100200,
   .since (windowAny "LAG") 100200, .since (windowAny "LEAD") 100200,
   .since (windowAny "FIRST_VALUE") 100200, .since (windowAny "LAST_VALUE") 100200,
   .since (windowAny "NTH_VALUE") 100200, .since (windowAny "MEDIAN") 100300,
   .since (windowAny "PERCENTILE_CONT") 100300, .since (windowAny "PERCENTILE_DISC") 100300,
   -- JSON functions
   .since (scalarAny "JSON_VALUE") 100202, .since (scalar "JSON_QUERY" .json) 100202,
   .since (scalar "JSON_EXISTS" .int) 100203, .since (scalar "JSON_DETAILED" .longText) 100204,
   .since (scalar "JSON_COMPACT" .longText) 100204,
   .since (scalar "JSON_LOOSE" .longText) 100204, .since (tableAny "JSON_TABLE") 100600,
   .since (scalar "JSON_EQUALS" .int) 100700, .since (scalar "JSON_NORMALIZE" .longText) 100700,
   .since (scalar "JSON_OVERLAPS" .int) 100900,
   -- sequences
   .since (scalar "NEXTVAL" .bigInt) 100300, .since (scalar "LASTVAL" .bigInt) 100300,
   .since (scalar "SETVAL" .bigInt) 100300,
   -- oracle compatibility
   .since (scalar "DECODE_ORACLE" .varchar) 100302, .since (scalar "LENGTHB" .bigInt) 100301,
   .since (scalar "ADD_MONTHS" .date) 100601, .since (scalar "TO_CHAR" .varchar) 100601,
   .since (scalar "SYS_GUID" .varchar) 100601,
   -- miscellaneous
   .since (scalar "SFORMAT" .longText) 100701,
   .since (scalar "NATURAL_SORT_KEY" .varchar) 100702, .since (scalar "KDF" .varBinary) 110300]

end SqlDialect.Catalog.MariaDb
