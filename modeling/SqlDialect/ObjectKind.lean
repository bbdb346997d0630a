/-!
# Kinds of named objects

The kinds of things in a database that have names, each with its own limit on
the length of a name.
-/

namespace SqlDialect

inductive ObjectKind where
  | schema | table | column | index | constraint | view | routine | trigger | event
  | tablespace | partition | savepoint | alias | userVariable | server | resourceGroup
  | role | user | host | sequence
deriving Repr, DecidableEq

namespace ObjectKind

def all : List ObjectKind :=
  [.schema, .table, .column, .index, .constraint, .view, .routine, .trigger, .event,
   .tablespace, .partition, .savepoint, .alias, .userVariable, .server, .resourceGroup,
   .role, .user, .host, .sequence]

def words : ObjectKind → String
  | .schema => "schema"
  | .table => "table"
  | .column => "column"
  | .index => "index"
  | .constraint => "constraint"
  | .view => "view"
  | .routine => "routine"
  | .trigger => "trigger"
  | .event => "event"
  | .tablespace => "tablespace"
  | .partition => "partition"
  | .savepoint => "savepoint"
  | .alias => "alias"
  | .userVariable => "user variable"
  | .server => "server"
  | .resourceGroup => "resource group"
  | .role => "role"
  | .user => "user"
  | .host => "host"
  | .sequence => "sequence"

def tag : ObjectKind → String
  | .schema => "Schema"
  | .table => "Table"
  | .column => "Column"
  | .index => "Index"
  | .constraint => "Constraint"
  | .view => "View"
  | .routine => "Routine"
  | .trigger => "Trigger"
  | .event => "Event"
  | .tablespace => "Tablespace"
  | .partition => "Partition"
  | .savepoint => "Savepoint"
  | .alias => "Alias"
  | .userVariable => "UserVariable"
  | .server => "ServerName"
  | .resourceGroup => "ResourceGroup"
  | .role => "Role"
  | .user => "UserName"
  | .host => "HostName"
  | .sequence => "Sequence"

end ObjectKind

end SqlDialect
