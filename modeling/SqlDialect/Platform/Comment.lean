import SqlDialect.Platform.Basic

/-!
# Executable comments

Servers of the lineage run the text of a comment `/*!50700 ... */` when the tag
after the exclamation mark allows it. A tag is a number, possibly with an `M` in
front that addresses MariaDB only; no number counts as `0`.

- The number `0` is run everywhere.
- A tag with `M` is not run on MySQL.
- Tags without `M` between 5.7.0 and 9.99.99 speak of MySQL versions that have
  nothing to do with MariaDB, which passes over them from 10.0.7 on.
- Otherwise a tag is run on every version after its number.
-/

namespace SqlDialect

structure CommentTag where
  mariaDbOnly : Bool
  number : Nat
deriving Repr, DecidableEq

namespace CommentTag

/-- The number of a tag: no digits count as `0`. -/
def number? (cs : List Char) : Option Nat :=
  if cs.isEmpty then some 0 else Text.number? cs

def parse? (s : String) : Option CommentTag :=
  match Text.trim s.toList with
  | 'M' :: rest | 'm' :: rest => (number? rest).map (⟨true, ·⟩)
  | cs => (number? cs).map (⟨false, ·⟩)

/-- The first number that MariaDB passes over. -/
def firstIgnored : Nat := 50700

def lastIgnored : Nat := 99999

/-- The first id of MariaDB that passes over numbers. -/
def ignoringSince : VersionId := 100007

/-- Is the text of the comment run on the version `id` of the family? -/
def runsOn (t : CommentTag) (family : Family) (id : VersionId) : Bool :=
  if !family.isLineage then false
  else if t.number == 0 then true
  else if t.mariaDbOnly && family != .mariaDb then false
  else if !t.mariaDbOnly && family == .mariaDb && firstIgnored ≤ t.number &&
      t.number ≤ lastIgnored && ignoringSince ≤ id then false
  else t.number < id

end CommentTag

/-- Is the text of a comment with this tag run? A tag that cannot be read is
not. -/
def Platform.runsComment (p : Platform) (tag : String) : Bool :=
  match CommentTag.parse? tag with
  | some t => t.runsOn p.family p.id
  | none => false

end SqlDialect
