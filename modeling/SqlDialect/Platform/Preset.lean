import SqlDialect.Family
import SqlDialect.Mode.Flag

/-!
# Mode presets

The flags that a release series turns on by default, as they are documented. A
series of MariaDB from 10.2 on that has no preset of its own takes the nearest
earlier one; every other series without a preset turns on nothing.
-/

namespace SqlDialect

/-- The documented default flags of a release series. -/
structure ModePreset where
  family : Family
  version : Version
  flags : List ModeFlag
deriving Repr, DecidableEq

namespace ModePreset

def mysql80 : List ModeFlag :=
  [.onlyFullGroupBy, .strictTransTables, .noZeroInDate, .noZeroDate, .errorForDivisionByZero,
   .noEngineSubstitution]

def all : List ModePreset :=
  [⟨.mysql, ⟨5, some 1, none⟩, []⟩,
   ⟨.mysql, ⟨5, some 5, none⟩, []⟩,
   ⟨.mysql, ⟨5, some 6, none⟩, [.noEngineSubstitution]⟩,
   ⟨.mysql, ⟨5, some 7, none⟩,
    [.onlyFullGroupBy, .strictTransTables, .noZeroInDate, .noZeroDate, .errorForDivisionByZero,
     .noAutoCreateUser, .noEngineSubstitution]⟩,
   ⟨.mysql, ⟨8, some 0, none⟩, mysql80⟩,
   ⟨.mysql, ⟨8, some 1, none⟩, mysql80⟩,
   ⟨.mysql, ⟨8, some 2, none⟩, mysql80⟩,
   ⟨.mysql, ⟨8, some 3, none⟩, mysql80⟩,
   ⟨.mysql, ⟨8, some 4, none⟩, mysql80⟩,
   ⟨.mysql, ⟨9, some 0, none⟩, mysql80⟩,
   ⟨.mariaDb, ⟨10, some 1, none⟩, [.noEngineSubstitution, .noAutoCreateUser]⟩,
   ⟨.mariaDb, ⟨10, some 2, none⟩,
    [.strictTransTables, .errorForDivisionByZero, .noAutoCreateUser, .noEngineSubstitution]⟩]

/-- The later of two presets; of two with one id, the second. -/
def later (best : Option ModePreset) (p : ModePreset) : Option ModePreset :=
  match best with
  | some b => if b.version.id ≤ p.version.id then some p else some b
  | none => some p

/-- The preset of the greatest id of the family that is not above `target`. -/
def nearest? (family : Family) (target : VersionId) : Option ModePreset :=
  (all.filter fun p => p.family == family && p.version.id ≤ target).foldl later none

/-- From this id on a series of MariaDB takes the nearest earlier preset. -/
def inheritedFrom : VersionId := 100200

def flagsFor (family : Family) (version : Version) : List ModeFlag :=
  match all.find? fun p => p.family == family && p.version.series == version.series with
  | some p => p.flags
  | none =>
    if family == .mariaDb && inheritedFrom ≤ version.id then
      match nearest? family version.id with
      | some p => p.flags
      | none => []
    else []

end ModePreset

end SqlDialect
