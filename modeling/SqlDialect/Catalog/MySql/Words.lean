import SqlDialect.Timeline

/-!
# Words of MySQL

The words of the language with their versions. A reserved word has to be quoted
when it is used as a name, a keyword need not be. Some words change from one
list to the other between versions.
-/

namespace SqlDialect.Catalog.MySql

def reserved : Timeline String :=
  [.always "ADD", .always "ALL", .always "ALTER", .always "ANALYZE", .always "AND",
   .always "AS", .always "ASC", .always "ASENSITIVE", .always "BEFORE", .always "BETWEEN",
   .always "BIGINT", .always "BINARY", .always "BLOB", .always "BOTH", .always "BY",
   .always "CALL", .always "CASCADE", .always "CASE", .always "CHANGE", .always "CHAR",
   .always "CHARACTER", .always "CHECK", .always "COLLATE", .always "COLUMN",
   .always "CONDITION", .always "CONSTRAINT", .always "CONTINUE", .always "CONVERT",
   .always "CREATE", .always "CROSS", .always "CURRENT_DATE", .always "CURRENT_TIME",
   .always "CURRENT_TIMESTAMP", .always "CURRENT_USER", .always "CURSOR", .always "DATABASE",
   .always "DATABASES", .always "DAY_HOUR", .always "DAY_MICROSECOND", .always "DAY_MINUTE",
   .always "DAY_SECOND", .always "DEC", .always "DECIMAL", .always "DECLARE", .always "DEFAULT",
   .always "DELAYED", .always "DELETE", .always "DESC", .always "DESCRIBE",
   .always "DETERMINISTIC", .always "DISTINCT", .always "DISTINCTROW", .always "DIV",
   .always "DOUBLE", .always "DROP", .always "DUAL", .always "EACH", .always "ELSE",
   .always "ELSEIF", .always "ENCLOSED", .always "ESCAPED", .always "EXISTS", .always "EXIT",
   .always "EXPLAIN", .always "FALSE", .always "FETCH", .always "FLOAT", .always "FLOAT4",
   .always "FLOAT8", .always "FOR", .always "FORCE", .always "FOREIGN", .always "FROM",
   .always "FULLTEXT", .always "GRANT", .always "GROUP", .always "HAVING",
   .always "HIGH_PRIORITY", .always "HOUR_MICROSECOND", .always "HOUR_MINUTE",
   .always "HOUR_SECOND", .always "IF", .always "IGNORE", .always "IN", .always "INDEX",
   .always "INFILE", .always "INNER", .always "INOUT", .always "INSENSITIVE", .always "INSERT",
   .always "INT", .always "INT1", .always "INT2", .always "INT3", .always "INT4",
   .always "INT8", .always "INTEGER", .always "INTERVAL", .always "INTO", .always "IS",
   .always "ITERATE", .always "JOIN", .always "KEY", .always "KEYS", .always "KILL",
   .always "LEADING", .always "LEAVE", .always "LEFT", .always "LIKE", .always "LIMIT",
   .always "LINES", .always "LOAD", .always "LOCALTIME", .always "LOCALTIMESTAMP",
   .always "LOCK", .always "LONG", .always "LONGBLOB", .always "LONGTEXT", .always "LOOP",
   .always "LOW_PRIORITY", .always "MATCH", .always "MEDIUMBLOB", .always "MEDIUMINT",
   .always "MEDIUMTEXT", .always "MIDDLEINT", .always "MINUTE_MICROSECOND",
   .always "MINUTE_SECOND", .always "MOD", .always "MODIFIES", .always "NATURAL", .always "NOT",
   .always "NO_WRITE_TO_BINLOG", .always "NULL", .always "NUMERIC", .always "ON",
   .always "OPTIMIZE", .always "OPTION", .always "OPTIONALLY", .always "OR", .always "ORDER",
   .always "OUT", .always "OUTER", .always "OUTFILE", .always "PRECISION", .always "PRIMARY",
   .always "PROCEDURE", .always "PURGE", .always "READ", .always "READS", .always "REAL",
   .always "REFERENCES", .always "REGEXP", .always "RELEASE", .always "RENAME",
   .always "REPEAT", .always "REPLACE", .always "REQUIRE", .always "RESTRICT", .always "RETURN",
   .always "REVOKE", .always "RIGHT", .always "RLIKE", .always "SCHEMA", .always "SCHEMAS",
   .always "SECOND_MICROSECOND", .always "SELECT", .always "SENSITIVE", .always "SEPARATOR",
   .always "SET", .always "SHOW", .always "SMALLINT", .always "SPATIAL", .always "SPECIFIC",
   .always "SQL", .always "SQLEXCEPTION", .always "SQLSTATE", .always "SQLWARNING",
   .always "SQL_BIG_RESULT", .always "SQL_CALC_FOUND_ROWS", .always "SQL_SMALL_RESULT",
   .always "SSL", .always "STARTING", .always "STRAIGHT_JOIN", .always "TABLE",
   .always "TERMINATED", .always "THEN", .always "TINYBLOB", .always "TINYINT",
   .always "TINYTEXT", .always "TO", .always "TRAILING", .always "TRIGGER", .always "TRUE",
   .always "UNDO", .always "UNION", .always "UNIQUE", .always "UNLOCK", .always "UNSIGNED",
   .always "UPDATE", .always "USAGE", .always "USE", .always "USING", .always "UTC_DATE",
   .always "UTC_TIME", .always "UTC_TIMESTAMP", .always "VALUES", .always "VARBINARY",
   .always "VARCHAR", .always "VARCHARACTER", .always "VARYING", .always "WHEN",
   .always "WHERE", .always "WHILE", .always "WITH", .always "WRITE", .always "XOR",
   .always "YEAR_MONTH", .always "ZEROFILL", .since "ACCESSIBLE" 50100, .since "LINEAR" 50100,
   .since "RANGE" 50100, .since "READ_WRITE" 50100, .since "MAXVALUE" 50500,
   .since "RESIGNAL" 50500, .since "SIGNAL" 50500, .since "PARTITION" 50600, .since "GET" 50604,
   .since "IO_AFTER_GTIDS" 50605, .since "IO_BEFORE_GTIDS" 50605, .since "GENERATED" 50706,
   .since "OPTIMIZER_COSTS" 50706, .since "STORED" 50706, .since "VIRTUAL" 50706,
   .since "CUBE" 80001, .since "FUNCTION" 80001, .since "GROUPING" 80001, .since "OF" 80001,
   .since "RECURSIVE" 80001, .since "CUME_DIST" 80002, .since "DENSE_RANK" 80002,
   .since "FIRST_VALUE" 80002, .since "GROUPS" 80002, .since "LAG" 80002,
   .since "LAST_VALUE" 80002, .since "LEAD" 80002, .since "NTH_VALUE" 80002,
   .since "NTILE" 80002, .since "OVER" 80002, .since "PERCENT_RANK" 80002, .since "RANK" 80002,
   .since "ROW" 80002, .since "ROWS" 80002, .since "ROW_NUMBER" 80002, .since "WINDOW" 80002,
   .since "SYSTEM" 80003, .since "EMPTY" 80004, .since "JSON_TABLE" 80004,
   .since "LATERAL" 80014, .since "EXCEPT" 80031, .since "INTERSECT" 80031,
   .since "MANUAL" 80400, .since "PARALLEL" 80400, .since "QUALIFY" 80400,
   .since "TABLESAMPLE" 80400, .between "MASTER_SSL_VERIFY_SERVER_CERT" 50100 80399,
   .between "MASTER_BIND" 50606 80399, .between "READ_ONLY" 50100 50599,
   .between "GENERAL" 50500 50599, .between "IGNORE_SERVER_IDS" 50500 50599,
   .between "MASTER_HEARTBEAT_PERIOD" 50500 50599, .between "SLOW" 50500 50599,
   .between "PARSE_GCOL_EXPR" 50706 79999, .upTo "ONE_SHOT" 50599, .upTo "ANALYSE" 79999,
   .upTo "MASTER_SERVER_ID" 79999, .upTo "REDOFILE" 79999, .upTo "DES_KEY_FILE" 80002,
   .upTo "SQL_CACHE" 80002]

def keywords : Timeline String :=
  [.always "ACTION", .always "AFTER", .always "AGAINST", .always "AGGREGATE",
   .always "ALGORITHM", .always "ANY", .always "AT", .always "AUTO_INCREMENT",
   .always "AUTOEXTEND_SIZE", .always "AVG", .always "AVG_ROW_LENGTH", .always "BACKUP",
   .always "BEGIN", .always "BINLOG", .always "BIT", .always "BLOCK", .always "BOOL",
   .always "BOOLEAN", .always "BTREE", .always "BYTE", .always "CACHE", .always "CASCADED",
   .always "CATALOG_NAME", .always "CHAIN", .always "CHANGED", .always "CHARSET",
   .always "CHECKSUM", .always "CIPHER", .always "CLASS_ORIGIN", .always "CLIENT",
   .always "CLOSE", .always "COALESCE", .always "CODE", .always "COLLATION", .always "COLUMNS",
   .always "COLUMN_NAME", .always "COMMENT", .always "COMMIT", .always "COMMITTED",
   .always "COMPACT", .always "COMPLETION", .always "COMPRESSED", .always "CONCURRENT",
   .always "CONNECTION", .always "CONSISTENT", .always "CONSTRAINT_CATALOG",
   .always "CONSTRAINT_NAME", .always "CONSTRAINT_SCHEMA", .always "CONTAINS",
   .always "CONTEXT", .always "CPU", .always "CURSOR_NAME", .always "DATA", .always "DATAFILE",
   .always "DATE", .always "DATETIME", .always "DAY", .always "DEALLOCATE", .always "DEFINER",
   .always "DELAY_KEY_WRITE", .always "DIRECTORY", .always "DISABLE", .always "DISCARD",
   .always "DISK", .always "DO", .always "DUMPFILE", .always "DUPLICATE", .always "DYNAMIC",
   .always "ENABLE", .always "END", .always "ENDS", .always "ENGINE", .always "ENGINES",
   .always "ENUM", .always "ERROR", .always "ERRORS", .always "ESCAPE", .always "EVENT",
   .always "EVENTS", .always "EVERY", .always "EXECUTE", .always "EXPANSION",
   .always "EXTENDED", .always "EXTENT_SIZE", .always "FAST", .always "FAULTS",
   .always "FIELDS", .always "FILE", .always "FIRST", .always "FIXED", .always "FLUSH",
   .always "FOUND", .always "FULL", .always "FUNCTION", .always "GEOMETRY",
   .always "GEOMETRYCOLLECTION", .always "GET_FORMAT", .always "GLOBAL", .always "GRANTS",
   .always "HANDLER", .always "HASH", .always "HELP", .always "HOST", .always "HOSTS",
   .always "HOUR", .always "IDENTIFIED", .always "IMPORT", .always "INDEXES",
   .always "INITIAL_SIZE", .always "INSERT_METHOD", .always "INVOKER", .always "IO",
   .always "IPC", .always "ISOLATION", .always "ISSUER", .always "KEY_BLOCK_SIZE",
   .always "LANGUAGE", .always "LAST", .always "LEAVES", .always "LESS", .always "LEVEL",
   .always "LINESTRING", .always "LIST", .always "LOCAL", .always "LOCKS", .always "LOGFILE",
   .always "LOGS", .always "MASTER_CONNECT_RETRY", .always "MASTER_HOST",
   .always "MASTER_LOG_FILE", .always "MASTER_LOG_POS", .always "MASTER_PASSWORD",
   .always "MASTER_PORT", .always "MASTER_USER", .always "MAX_CONNECTIONS_PER_HOUR",
   .always "MAX_QUERIES_PER_HOUR", .always "MAX_ROWS", .always "MAX_SIZE",
   .always "MAX_UPDATES_PER_HOUR", .always "MAX_USER_CONNECTIONS", .always "MEDIUM",
   .always "MEMORY", .always "MERGE", .always "MESSAGE_TEXT", .always "MICROSECOND",
   .always "MIGRATE", .always "MINUTE", .always "MIN_ROWS", .always "MODE", .always "MODIFY",
   .always "MONTH", .always "MULTILINESTRING", .always "MULTIPOINT", .always "MULTIPOLYGON",
   .always "MUTEX", .always "MYSQL_ERRNO", .always "NAME", .always "NAMES", .always "NATIONAL",
   .always "NCHAR", .always "NDB", .always "NDBCLUSTER", .always "NEW", .always "NEXT",
   .always "NO", .always "NODEGROUP", .always "NONE", .always "NVARCHAR", .always "OFFSET",
   .always "ONE", .always "OPEN", .always "OPTIONS", .always "OWNER", .always "PACK_KEYS",
   .always "PAGE", .always "PARSER", .always "PARTIAL", .always "PARTITIONING",
   .always "PARTITIONS", .always "PASSWORD", .always "PHASE", .always "PLUGIN",
   .always "PLUGINS", .always "POINT", .always "POLYGON", .always "PORT", .always "PREPARE",
   .always "PRESERVE", .always "PREV", .always "PRIVILEGES", .always "PROCESSLIST",
   .always "PROFILE", .always "PROFILES", .always "PROXY", .always "QUARTER", .always "QUERY",
   .always "QUICK", .always "REBUILD", .always "RECOVER", .always "REDUNDANT", .always "RELAY",
   .always "RELAY_LOG_FILE", .always "RELAY_LOG_POS", .always "RELAYLOG", .always "RELOAD",
   .always "REMOVE", .always "REORGANIZE", .always "REPAIR", .always "REPEATABLE",
   .always "REPLICATION", .always "RESET", .always "RESTORE", .always "RESUME",
   .always "RETURNS", .always "REVERSE", .always "ROLLBACK", .always "ROLLUP",
   .always "ROUTINE", .always "ROW_FORMAT", .always "RTREE", .always "SAVEPOINT",
   .always "SCHEDULE", .always "SCHEMA_NAME", .always "SECOND", .always "SECURITY",
   .always "SERIAL", .always "SERIALIZABLE", .always "SERVER", .always "SESSION",
   .always "SHARE", .always "SHUTDOWN", .always "SIGNED", .always "SIMPLE", .always "SNAPSHOT",
   .always "SOCKET", .always "SOME", .always "SONAME", .always "SOUNDS", .always "SOURCE",
   .always "SQL_BUFFER_RESULT", .always "SQL_THREAD", .always "START", .always "STARTS",
   .always "STATUS", .always "STOP", .always "STORAGE", .always "STRING",
   .always "SUBCLASS_ORIGIN", .always "SUBJECT", .always "SUBPARTITION",
   .always "SUBPARTITIONS", .always "SUPER", .always "SUSPEND", .always "SWAPS",
   .always "SWITCHES", .always "TABLES", .always "TABLESPACE", .always "TABLE_NAME",
   .always "TEMPORARY", .always "TEMPTABLE", .always "TEXT", .always "THAN", .always "TIME",
   .always "TIMESTAMP", .always "TIMESTAMPADD", .always "TIMESTAMPDIFF", .always "TRANSACTION",
   .always "TRIGGERS", .always "TRUNCATE", .always "TYPE", .always "TYPES",
   .always "UNCOMMITTED", .always "UNDEFINED", .always "UNDOFILE", .always "UNDO_BUFFER_SIZE",
   .always "UNICODE", .always "UNKNOWN", .always "UNTIL", .always "UPGRADE", .always "USER",
   .always "USER_RESOURCES", .always "VALUE", .always "VARIABLES", .always "VIEW",
   .always "WAIT", .always "WARNINGS", .always "WEEK", .always "WORK", .always "WRAPPER",
   .always "X509", .always "XA", .always "XML", .always "YEAR", .since "SLOW" 50600,
   .since "GENERAL" 50600, .since "IGNORE_SERVER_IDS" 50600,
   .since "MASTER_HEARTBEAT_PERIOD" 50600, .since "READ_ONLY" 50600, .since "EXCHANGE" 50600,
   .since "EXPORT" 50606, .since "STACKED" 50600, .since "DIAGNOSTICS" 50600,
   .since "MASTER_AUTO_POSITION" 50605, .since "MASTER_DELAY" 50602,
   .since "SQL_AFTER_GTIDS" 50605, .since "SQL_BEFORE_GTIDS" 50605, .since "ALWAYS" 50706,
   .since "CHANNEL" 50706, .since "COMPRESSION" 50708, .since "ENCRYPTION" 50711,
   .since "FILE_BLOCK_SIZE" 50706, .since "FILTER" 50706, .since "FOLLOWS" 50702,
   .since "PRECEDES" 50702, .since "GROUP_REPLICATION" 50706, .since "INSTANCE" 50711,
   .since "JSON" 50708, .since "NEVER" 50704, .since "REPLICATE_DO_DB" 50706,
   .since "ROTATE" 50711, .since "STATS_PERSISTENT" 50602, .since "VALIDATION" 50705,
   .since "WITHOUT" 50705, .since "XID" 50707, .since "ACTIVE" 80014, .since "ADMIN" 80000,
   .since "BUCKETS" 80002, .since "CLONE" 80003, .since "COMPONENT" 80000,
   .since "CURRENT" 80002, .since "DEFINITION" 80004, .since "DESCRIPTION" 80004,
   .since "EXCLUDE" 80002, .since "FOLLOWING" 80002, .since "HISTOGRAM" 80002,
   .since "HISTORY" 80003, .since "INACTIVE" 80014, .since "INVISIBLE" 80000,
   .since "LOCKED" 80001, .since "MASTER_PUBLIC_KEY_PATH" 80004, .since "NESTED" 80004,
   .since "NETWORK_NAMESPACE" 80016, .since "NOWAIT" 80001, .since "NULLS" 80002,
   .since "ORDINALITY" 80004, .since "ORGANIZATION" 80004, .since "OTHERS" 80002,
   .since "PATH" 80004, .since "PERSIST" 80000, .since "PERSIST_ONLY" 80000,
   .since "PRECEDING" 80002, .since "REFERENCE" 80004, .since "REMOTE" 80003,
   .since "REPLICA" 80022, .since "REPLICAS" 80022, .since "RESOURCE" 80003,
   .since "RESPECT" 80002, .since "RESTART" 80011, .since "RETAIN" 80014, .since "REUSE" 80003,
   .since "ROLE" 80000, .since "SECONDARY" 80013, .since "SKIP" 80001,
   .since "SOURCE_HOST" 80023, .since "SRID" 80003, .since "STREAM" 80020,
   .since "THREAD_PRIORITY" 80003, .since "TIES" 80002, .since "UNBOUNDED" 80002,
   .since "VCPU" 80003, .since "VISIBLE" 80000, .since "ARRAY" 80017, .since "MEMBER" 80017,
   .since "RANDOM" 80018, .since "ATTRIBUTE" 80021, .since "ENGINE_ATTRIBUTE" 80021,
   .since "AUTO" 80400, .since "BULK" 80400, .since "GTIDS" 80400, .since "LOG" 80400,
   .since "PARSE_TREE" 80400, .since "VECTOR" 90000, .upTo "AUTHORS" 50599,
   .upTo "CONTRIBUTORS" 50599, .upTo "FRAC_SECOND" 50599, .upTo "USE_FRM" 80099,
   .upTo "OLD_PASSWORD" 50799, .upTo "SQL_NO_CACHE" 80099, .upTo "SLAVE" 90099,
   .upTo "MASTER" 90099]

end SqlDialect.Catalog.MySql
