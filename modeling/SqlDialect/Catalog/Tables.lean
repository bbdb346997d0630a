import SqlDialect.DataType
import SqlDialect.ObjectKind
import SqlDialect.Timeline
import SqlDialect.Variable

/-!
# Capability tables

One family's own knowledge about its versions: a timeline for every kind of
capability, and the names that the family withdraws from the family it builds
upon.
-/

namespace SqlDialect

/-- The kinds of names that can be withdrawn. -/
inductive NameKind where
  | keyword
  | reserved
  | operator
  | systemVariable
  | preparable
deriving Repr, DecidableEq

/-- A name that is taken away from what earlier tables gave. -/
structure Withdrawal where
  kind : NameKind
  name : String
deriving Repr, DecidableEq

/-- One family's capabilities over time. -/
structure Tables where
  reserved : Timeline String
  keywords : Timeline String
  operators : Timeline String
  types : Timeline DataType
  systemVariables : Timeline Variable
  preparable : Timeline String
  limits : Timeline (ObjectKind × Nat)
  withdrawn : Timeline Withdrawal
deriving Repr, DecidableEq

namespace Tables

def size (t : Tables) : Nat :=
  t.reserved.length + t.keywords.length + t.operators.length + t.types.length +
    t.systemVariables.length + t.preparable.length + t.limits.length + t.withdrawn.length

def isEmpty (t : Tables) : Bool := t.size == 0

end Tables

end SqlDialect
