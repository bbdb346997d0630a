import SqlDialect.Builtin.Merge
import SqlDialect.Catalog.MariaDb.Builtins
import SqlDialect.Catalog.MariaDb.Tables
import SqlDialect.Catalog.MySql.Builtins
import SqlDialect.Catalog.MySql.Server
import SqlDialect.Catalog.MySql.Syntax
import SqlDialect.Catalog.MySql.Words
import SqlDialect.Error

/-!
# The catalog

All tables together, and the layers from which a version of a family is made:
MySQL has one layer, read at its own id; MariaDB has the MySQL tables read at
the id that it stands on (`Family.baseline?`) and then its own. Nothing is known
of the standard.

Everything below is a function of a `Catalog`; `Catalog.shipped` is the one that
comes with the library.
-/

namespace SqlDialect

/-- Capability tables and the id at which they are read. -/
structure Layer where
  tables : Tables
  target : VersionId
deriving Repr, DecidableEq

/-- The tables of both families that have any. -/
structure Catalog where
  mysql : Tables
  mariaDb : Tables
  mysqlBuiltins : Timeline Builtin
  mariaDbBuiltins : Timeline Builtin

namespace Catalog

def MySql.tables : Tables :=
  ⟨MySql.reserved, MySql.keywords, MySql.operators, MySql.types, MySql.systemVariables,
   MySql.preparable, MySql.limits, []⟩

/-- The catalog that comes with the library. -/
def shipped : Catalog where
  mysql := MySql.tables
  mariaDb := MariaDb.tables
  mysqlBuiltins := MySql.builtins
  mariaDbBuiltins := MariaDb.builtins

def tables? (c : Catalog) : Family → Option Tables
  | .mysql => some c.mysql
  | .mariaDb => some c.mariaDb
  | .standard => none

def builtins? (c : Catalog) : Family → Option (Timeline Builtin)
  | .mysql => some c.mysqlBuiltins
  | .mariaDb => some c.mariaDbBuiltins
  | .standard => none

/-- The layers of the version `target` of a family, in the order in which they
are applied. -/
def layers (c : Catalog) (family : Family) (target : VersionId) : Except Error (List Layer) :=
  match family with
  | .mysql => .ok [⟨c.mysql, target⟩]
  | .mariaDb => .ok [⟨c.mysql, (family.baseline? target).getD target⟩, ⟨c.mariaDb, target⟩]
  | .standard => .error (.noTables family)

/-- The function layers of the version `target` of a family, in the order in
which they are applied. -/
def builtinLayers (c : Catalog) (family : Family) (target : VersionId) : List BuiltinLayer :=
  match family with
  | .mysql => [⟨c.mysqlBuiltins, target⟩]
  | .mariaDb =>
    [⟨c.mysqlBuiltins, (family.baseline? target).getD target⟩, ⟨c.mariaDbBuiltins, target⟩]
  | .standard => []

def builtins (c : Catalog) (family : Family) (target : VersionId) : List Builtin :=
  Builtin.merge (c.builtinLayers family target)

def builtin? (c : Catalog) (family : Family) (target : VersionId) (name : String) :
    Option Builtin :=
  Builtin.named? (c.builtins family target) name

def hasBuiltin (c : Catalog) (family : Family) (target : VersionId) (name : String) : Bool :=
  (c.builtin? family target name).isSome

end Catalog

end SqlDialect
