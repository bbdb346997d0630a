import SqlDialect.Version.Basic

/-!
# Timelines

Everything that depends on the version (keywords, operators, types, functions,
variables, commands, name lengths) is described in one way: a value with the
first and the last version id at which it exists. A `Timeline` lists such
entries, and `Timeline.activeAt` is the only way in which it is read: the values that
exist at one id, in the order of the list.

Both ends of a span are inclusive. An entry whose first id is above its last
one exists nowhere.
-/

namespace SqlDialect

/-- A value and the ids at which it exists. -/
structure Dated (α : Type) where
  value : α
  introduced : VersionId
  removed : VersionId
deriving Repr, DecidableEq

namespace Dated

variable {α : Type}

/-- A value that exists at every id up to `VersionId.greatest`. -/
def always (value : α) : Dated α := ⟨value, VersionId.least, VersionId.greatest⟩

def since (value : α) (first : VersionId) : Dated α := ⟨value, first, VersionId.greatest⟩

def upTo (value : α) (last : VersionId) : Dated α := ⟨value, VersionId.least, last⟩

def between (value : α) (first last : VersionId) : Dated α := ⟨value, first, last⟩

def activeAt (e : Dated α) (target : VersionId) : Bool :=
  e.introduced ≤ target && target ≤ e.removed

end Dated

/-- Dated values in the order in which they are listed. -/
abbrev Timeline (α : Type) := List (Dated α)

/-- The values of the timeline that exist at the id `target`, in its order. -/
def Timeline.activeAt {α : Type} (t : Timeline α) (target : VersionId) : List α :=
  (t.filter (·.activeAt target)).map (·.value)

end SqlDialect
