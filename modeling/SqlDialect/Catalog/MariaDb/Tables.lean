import SqlDialect.Catalog.Tables

/-!
# Capabilities of MariaDB

What MariaDB adds to the MySQL version that it stands on, and which names it
withdraws from there. All ids are ids of MariaDB.
-/

namespace SqlDialect.Catalog.MariaDb

open Variable (settable readOnly)

def modes101 : String :=
  "NO_ENGINE_SUBSTITUTION,NO_AUTO_CREATE_USER"

def modes102 : String :=
  "STRICT_TRANS_TABLES,ERROR_FOR_DIVISION_BY_ZERO,NO_AUTO_CREATE_USER," ++
    "NO_ENGINE_SUBSTITUTION"

def reserved : Timeline String :=
  [.since "PAGE_CHECKSUM" 50100, .since "PARSE_VCOL_EXPR" 50200, .since "REF_SYSTEM_ID" 50500,
   .since "RETURNING" 100005, .since "DELETE_DOMAIN_ID" 100100, .since "DO_DOMAIN_IDS" 100100,
   .since "IGNORE_DOMAIN_IDS" 100100, .since "STATS_AUTO_RECALC" 100000,
   .since "STATS_PERSISTENT" 100000, .since "STATS_SAMPLE_PAGES" 100000, .since "OVER" 100200,
   .since "RECURSIVE" 100200, .since "ROWS" 100200, .since "WINDOW" 100200,
   .since "EXCEPT" 100300, .since "INTERSECT" 100300, .since "OFFSET" 100600]

def keywords : Timeline String :=
  [.since "DYNAMIC" 50300, .since "VIRTUAL" 50200, .since "PERSISTENT" 50200,
   .since "GENERATED" 100200, .since "STORED" 100200, .since "SLAVES" 100000,
   .since "MASTER_GTID_POS" 100000, .since "SEQUENCE" 100300, .since "INCREMENT" 100300,
   .since "CYCLE" 100300, .since "MINVALUE" 100300, .since "NOCACHE" 100300,
   .since "NOCYCLE" 100300, .since "NOMAXVALUE" 100300, .since "NOMINVALUE" 100300,
   .since "INVISIBLE" 100303, .since "SYSTEM_TIME" 100304, .since "VERSIONING" 100304,
   .since "HISTORY" 100304, .since "PERIOD" 100403, .since "OVERLAPS" 100503,
   .since "IGNORED" 100600, .since "ROWNUM" 100601]

def operators : Timeline String :=
  [.since "MINUS" 100600]

def types : Timeline DataType :=
  [.since .inet6 100500, .since .uuid 100700, .since .inet4 101000]

def systemVariables : Timeline Variable :=
  [.upTo (settable "sql_mode" .set .both "") 100106,
   .between (settable "sql_mode" .set .both modes101) 100107 100203,
   .since (settable "sql_mode" .set .both modes102) 100204,
   .since (settable "gtid_domain_id" .unsignedInt .both "0") 100005,
   .since (readOnly (settable "aria_pagecache_buffer_size" .unsignedInt .global
     "134217728")) 50100,
   .since (settable "system_versioning_alter_history" .enum .both "ERROR") 100302,
   .since (settable "explicit_defaults_for_timestamp" .bool .both "ON") 101000]

def preparable : Timeline String :=
  [.since "CREATE SEQUENCE" 100300, .since "DROP SEQUENCE" 100300,
   .since "SHOW CREATE SEQUENCE" 100300]

def limits : Timeline (ObjectKind × Nat) :=
  [.since (.user, 80) 100000, .since (.sequence, 64) 100300]

def withdrawn : Timeline Withdrawal :=
  [.always ⟨.reserved, "GENERATED"⟩, .always ⟨.reserved, "OPTIMIZER_COSTS"⟩,
   .always ⟨.reserved, "STORED"⟩, .always ⟨.reserved, "VIRTUAL"⟩,
   .always ⟨.reserved, "PARSE_GCOL_EXPR"⟩, .always ⟨.operator, "->"⟩,
   .always ⟨.operator, "->>"⟩, .always ⟨.systemVariable, "default_authentication_plugin"⟩,
   .upTo ⟨.systemVariable, "transaction_isolation"⟩ 110099,
   .upTo ⟨.systemVariable, "transaction_read_only"⟩ 110099]

def tables : Tables :=
  ⟨reserved, keywords, operators, types, systemVariables, preparable, limits, withdrawn⟩

end SqlDialect.Catalog.MariaDb
