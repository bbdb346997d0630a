import SqlDialect.ObjectKind
import SqlDialect.Timeline
import SqlDialect.Variable

/-!
# Variables and limits of MySQL

The system variables and the lengths that names may have, with their versions.
A variable whose default changed is listed once for each span.
-/

namespace SqlDialect.Catalog.MySql

open Variable (settable readOnly)

def modes56 : String :=
  "NO_ENGINE_SUBSTITUTION"

def modes57 : String :=
  "ONLY_FULL_GROUP_BY,STRICT_TRANS_TABLES,NO_ZERO_IN_DATE,NO_ZERO_DATE," ++
    "ERROR_FOR_DIVISION_BY_ZERO,NO_AUTO_CREATE_USER,NO_ENGINE_SUBSTITUTION"

def modes80 : String :=
  "ONLY_FULL_GROUP_BY,STRICT_TRANS_TABLES,NO_ZERO_IN_DATE,NO_ZERO_DATE," ++
    "ERROR_FOR_DIVISION_BY_ZERO,NO_ENGINE_SUBSTITUTION"

def systemVariables : Timeline Variable :=
  [ -- sql_mode
   .upTo (settable "sql_mode" .set .both "") 50605,
   .between (settable "sql_mode" .set .both modes56) 50606 50704,
   .between (settable "sql_mode" .set .both modes57) 50705 79999,
   .since (settable "sql_mode" .set .both modes80) 80000,
   -- session behaviour
   .always (settable "autocommit" .bool .both "ON"),
   .always (settable "auto_increment_increment" .unsignedInt .both "1"),
   .always (settable "auto_increment_offset" .unsignedInt .both "1"),
   .always (settable "big_tables" .bool .both "OFF"),
   .always (settable "completion_type" .enum .both "NO_CHAIN"),
   .always (settable "div_precision_increment" .unsignedInt .both "4"),
   .always (settable "foreign_key_checks" .bool .both "ON"),
   .always (settable "unique_checks" .bool .both "ON"),
   .always (settable "group_concat_max_len" .unsignedInt .both "1024"),
   .always (settable "lock_wait_timeout" .unsignedInt .both "31536000"),
   .always (settable "sql_safe_updates" .bool .both "OFF"),
   .always (settable "sql_select_limit" .unsignedInt .both "18446744073709551615"),
   .always (settable "sql_log_bin" .bool .session "ON"),
   .always (settable "time_zone" .string .both "SYSTEM"),
   .always (settable "wait_timeout" .unsignedInt .both "28800"),
   .always (settable "interactive_timeout" .unsignedInt .both "28800"),
   .always (settable "net_read_timeout" .unsignedInt .both "30"),
   .always (settable "net_write_timeout" .unsignedInt .both "60"),
   .always (settable "long_query_time" .float .both "10"),
   .always (settable "optimizer_switch" .set .both ""),
   .upTo (settable "tx_isolation" .enum .both "REPEATABLE-READ") 80002,
   .since (settable "transaction_isolation" .enum .both "REPEATABLE-READ") 50720,
   .upTo (settable "tx_read_only" .bool .both "OFF") 80002,
   .since (settable "transaction_read_only" .bool .both "OFF") 50720,
   -- character sets
   .upTo (settable "character_set_client" .charset .both "latin1") 79999,
   .since (settable "character_set_client" .charset .both "utf8mb4") 80000,
   .upTo (settable "character_set_connection" .charset .both "latin1") 79999,
   .since (settable "character_set_connection" .charset .both "utf8mb4") 80000,
   .upTo (settable "character_set_results" .charset .both "latin1") 79999,
   .since (settable "character_set_results" .charset .both "utf8mb4") 80000,
   .upTo (settable "character_set_server" .charset .both "latin1") 79999,
   .since (settable "character_set_server" .charset .both "utf8mb4") 80000,
   .upTo (settable "collation_connection" .collation .both "latin1_swedish_ci") 79999,
   .since (settable "collation_connection" .collation .both "utf8mb4_0900_ai_ci") 80000,
   .upTo (settable "collation_server" .collation .both "latin1_swedish_ci") 79999,
   .since (settable "collation_server" .collation .both "utf8mb4_0900_ai_ci") 80000,
   -- storage
   .upTo (settable "storage_engine" .enum .both "InnoDB") 50704,
   .since (settable "default_storage_engine" .enum .both "InnoDB") 50503,
   .since (settable "default_tmp_storage_engine" .enum .both "InnoDB") 50603,
   .always (settable "innodb_buffer_pool_size" .unsignedInt .global "134217728"),
   .upTo (settable "max_allowed_packet" .unsignedInt .both "4194304") 80002,
   .since (settable "max_allowed_packet" .unsignedInt .both "67108864") 80003,
   .always (settable "max_connections" .unsignedInt .global "151"),
   .upTo (settable "query_cache_size" .unsignedInt .global "1048576") 80002,
   .upTo (settable "query_cache_type" .enum .both "OFF") 80002,
   .always (settable "binlog_format" .enum .both "ROW"),
   .between (settable "explicit_defaults_for_timestamp" .bool .both "OFF") 50606 80001,
   .since (settable "explicit_defaults_for_timestamp" .bool .both "ON") 80002,
   .since (settable "block_encryption_mode" .string .both "aes-128-ecb") 50617,
   .between (readOnly (settable "default_authentication_plugin" .enum .global
     "mysql_native_password")) 50606 80003,
   .between (readOnly (settable "default_authentication_plugin" .enum .global
     "caching_sha2_password")) 80004 80399,
   .since (settable "cte_max_recursion_depth" .unsignedInt .both "1000") 80003,
   .since (settable "windowing_use_high_precision" .bool .both "ON") 80002,
   .since (settable "information_schema_stats_expiry" .unsignedInt .both "86400") 80003,
   .since (settable "sql_require_primary_key" .bool .both "OFF") 80013,
   -- server information
   .always (readOnly (settable "version" .string .global "")),
   .always (readOnly (settable "version_comment" .string .global "")),
   .always (readOnly (settable "lower_case_table_names" .unsignedInt .global "0")),
   .always (readOnly (settable "port" .unsignedInt .global "3306"))]

def limits : Timeline (ObjectKind × Nat) :=
  [.always (.schema, 64), .always (.table, 64), .always (.column, 64), .always (.index, 64),
   .always (.constraint, 64), .always (.view, 64), .always (.routine, 64),
   .always (.trigger, 64), .always (.event, 64), .always (.tablespace, 64),
   .always (.partition, 64), .always (.savepoint, 64), .always (.alias, 256),
   .always (.userVariable, 64), .always (.server, 64), .upTo (.user, 16) 50707,
   .since (.user, 32) 50708, .upTo (.host, 60) 80016, .since (.host, 255) 80017,
   .since (.resourceGroup, 64) 80003, .since (.role, 32) 80000]

end SqlDialect.Catalog.MySql
