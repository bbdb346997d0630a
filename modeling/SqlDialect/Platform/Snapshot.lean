import SqlDialect.Platform.Basic

/-!
# Snapshots

A listing of what a platform can do, in the order of the catalog: the names of
the MySQL tables and then those of the MariaDB tables, each name once, as far as
the platform has them.
-/

namespace SqlDialect

/-- The capabilities of a platform in the order of the catalog. -/
structure Snapshot where
  operators : List String
  preparable : List String
  types : List DataType
  builtins : List String
  systemVariables : List Variable
  limits : List (ObjectKind × Option Nat)
deriving Repr, DecidableEq

/-- The values of two timelines, each once, in order of first appearance. -/
def Timeline.namesOf {α : Type} (name : α → String) (a b : Timeline α) : List String :=
  ((a ++ b).map fun e => name e.value).eraseDups

def Platform.snapshot (catalog : Catalog) (p : Platform) : Snapshot where
  operators :=
    (Timeline.namesOf (fun s => s) catalog.mysql.operators catalog.mariaDb.operators).filter
      p.hasOperator
  preparable :=
    (Timeline.namesOf (fun s => s) catalog.mysql.preparable catalog.mariaDb.preparable).filter
      p.isPreparable
  types := DataType.all.filter p.hasType
  builtins :=
    (Timeline.namesOf Builtin.name catalog.mysqlBuiltins catalog.mariaDbBuiltins).filter
      p.hasBuiltin
  systemVariables :=
    (Timeline.namesOf Variable.name catalog.mysql.systemVariables catalog.mariaDb.systemVariables).filterMap
      p.variableNamed?
  limits := ObjectKind.all.map fun k => (k, p.maxLength? k)

end SqlDialect
