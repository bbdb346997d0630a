import SqlDialect.Text.Ascii
import SqlDialect.Text.Blank
import SqlDialect.Version.Basic

/-!
# Families

A family is a line of SQL dialects with its own scheme of versions: MySQL and
MariaDB, which share their syntax, modes and executable comments and form one
*lineage*, and the SQL standard, whose versions are years.
-/

namespace SqlDialect

inductive Family where
  | mysql
  | mariaDb
  | standard
deriving Repr, DecidableEq

namespace Family

def all : List Family := [.mysql, .mariaDb, .standard]

def name : Family → String
  | .mysql => "mysql"
  | .mariaDb => "maria"
  | .standard => "sql"

def displayName : Family → String
  | .mysql => "MySQL"
  | .mariaDb => "MariaDB"
  | .standard => "SQL"

def isLineage : Family → Bool
  | .mysql | .mariaDb => true
  | .standard => false

/-- The release series that are supported, oldest first. -/
def supportedSeries : Family → List String
  | .mysql => ["5.1", "5.5", "5.6", "5.7", "8.0", "8.1", "8.2", "8.3", "8.4", "9.0"]
  | .mariaDb =>
    ["5.1", "5.2", "5.3", "5.5", "10.0", "10.1", "10.2", "10.3", "10.4", "10.5", "10.6", "10.7",
     "10.8", "10.9", "10.10", "10.11", "11.0", "11.1", "11.2", "11.3", "11.4"]
  | .standard => ["92", "99", "2003", "2008", "2011", "2016", "2019", "2023"]

/-- The release series that is meant when none is given. -/
def defaultSeries : Family → String
  | .mysql => "8.0"
  | .mariaDb => "10.11"
  | .standard => "2016"

def supports (f : Family) (series : String) : Bool := f.supportedSeries.contains series

/-- The MySQL id whose capabilities a version of the family starts from.
MariaDB shares the ids of MySQL below `10.0`, stands on MySQL 5.6 in its series
10.0 and 10.1, and on MySQL 5.7 after that. -/
def baseline? (f : Family) (target : VersionId) : Option VersionId :=
  match f with
  | .mysql => some target
  | .mariaDb =>
    if target ≤ 99999 then some target
    else if target ≤ 100199 then some 50699
    else some 50799
  | .standard => none

/-- The family of a name; the error is the name in the form in which it was
looked up. -/
def parse (s : String) : Except String Family :=
  let key := Text.lower (Text.trimmed s)
  if key = "mysql" then .ok .mysql
  else if key = "maria" ∨ key = "mariadb" then .ok .mariaDb
  else if key = "sql" then .ok .standard
  else .error key

end Family

end SqlDialect
