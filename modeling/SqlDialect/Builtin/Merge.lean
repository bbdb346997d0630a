import SqlDialect.Builtin.Basic
import SqlDialect.Text.Ascii
import SqlDialect.Timeline

/-!
# The functions of several layers

Builtin tables are stacked: each layer is a timeline read at an id of its own.
The functions of a stack are those that are active in some layer, in the order
in which their names first appear; a later entry of the same name takes the
place of the earlier one.

They are listed one by one in a `Roster`, which remembers where each name stands,
so that no name is searched for among the functions.
-/

namespace SqlDialect

/-- A timeline of functions and the id at which it is read. -/
structure BuiltinLayer where
  table : Timeline Builtin
  target : VersionId

namespace BuiltinLayer

def active (l : BuiltinLayer) : List Builtin := l.table.activeAt l.target

end BuiltinLayer

/-- The functions that are listed so far, and the position of each name. -/
structure Roster where
  functions : Array Builtin
  positions : List (String × Nat)

namespace Roster

def empty : Roster := ⟨#[], []⟩

/-- List `f` at the position of its name or, if that has none, at the end. -/
def enter (r : Roster) (f : Builtin) : Roster :=
  match r.positions.lookup f.name with
  -- a position is always within the functions, so that one of them is replaced
  | some i => { r with functions := r.functions.setIfInBounds i f }
  | none =>
    { functions := r.functions.push f
      positions := (f.name, r.functions.size) :: r.positions }

def enterLayer (r : Roster) (l : BuiltinLayer) : Roster := l.active.foldl enter r

def ofLayers (layers : List BuiltinLayer) : Roster := layers.foldl enterLayer empty

end Roster

namespace Builtin

def merge (layers : List BuiltinLayer) : List Builtin :=
  (Roster.ofLayers layers).functions.toList

/-- The first of the functions with the given name, up to case. -/
def named? (fs : List Builtin) (name : String) : Option Builtin :=
  fs.find? fun f => Text.sameName f.name name

end Builtin

end SqlDialect
