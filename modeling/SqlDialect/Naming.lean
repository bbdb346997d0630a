import SqlDialect.Family
import SqlDialect.Text.Capital

/-!
# Names

The conventions of a family for names: the character that quotes them, how an
unquoted name is folded, and the names that are made up for indexes and
constraints that were left unnamed.

A made-up name is the first one of a numbered series that is free. A name is
taken when an existing name equals it up to the case of `A`-`Z`. Of any
`existing.length + 1` different names of a series one is free, so the search
stops there at the latest.
-/

namespace SqlDialect

/-- The conventions of a family. -/
inductive Naming where
  | mysql
  | mariaDb
  | standard
deriving Repr, DecidableEq

namespace Naming

/-! ## Free names -/

def isTaken (existing : List String) (name : String) : Bool :=
  existing.any fun e => Text.sameName e name

/-- The first free name of `series` from the number `n` on, after at most
`tries` taken ones. -/
def freeFrom (existing : List String) (series : Nat → String) : (tries n : Nat) → String
  | 0, n => series n
  | tries + 1, n =>
    if isTaken existing (series n) then freeFrom existing series tries (n + 1) else series n

/-- The first free name `stem1`, `stem2`, … -/
def numbered (existing : List String) (stem : String) : String :=
  freeFrom existing (fun n => stem ++ toString n) existing.length 1

/-- The base itself if it is free, else the first free name `base_2`, `base_3`, … -/
def suffixed (existing : List String) (base : String) : String :=
  if isTaken existing base then
    freeFrom existing (fun n => base ++ "_" ++ toString n) existing.length 2
  else base

/-! ## Conventions -/

def quote : Naming → Char
  | .mysql | .mariaDb => '\x60'
  | .standard => '"'

/-- An unquoted name as it is stored. -/
def fold : Naming → String → String
  | .mysql, name | .mariaDb, name => name
  | .standard, name => Text.capitalized name

def indexName (n : Naming) (table : String) (columns existing : List String) : String :=
  match n with
  | .mysql | .mariaDb => suffixed existing (columns.head?.getD table)
  | .standard => numbered existing (n.fold table ++ "_IDX_")

def foreignKeyName (n : Naming) (table : String) (existing : List String) : String :=
  match n with
  | .mysql | .mariaDb => numbered existing (table ++ "_ibfk_")
  | .standard => numbered existing (n.fold table ++ "_FK_")

def checkName (n : Naming) (table : String) (existing : List String) : String :=
  match n with
  | .mysql => numbered existing (table ++ "_chk_")
  | .mariaDb => numbered existing "CONSTRAINT_"
  | .standard => numbered existing (n.fold table ++ "_CHK_")

end Naming

def Family.naming : Family → Naming
  | .mysql => .mysql
  | .mariaDb => .mariaDb
  | .standard => .standard

end SqlDialect
