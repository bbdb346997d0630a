/-!
# Versions

A `Version` is what was written: `8`, `8.0`, `8.0.32`, `2016`. Components that
were left out stay absent, so `8` and `8.0` are different versions.

Versions are compared through their `id`, one number per version:

- a dotted version has the digits of its major followed by two digits each for
  minor and patch; an absent minor counts as `0` and an absent patch as `99`, so
  that `8.0` comes after every `8.0.x` that was spelled out;
- a version whose major is above `lastDottedMajor` is an edition of the standard,
  named by its year, and the year is its id.
-/

namespace SqlDialect

abbrev VersionId := Nat

/-- The id of things that have always been there. -/
def VersionId.least : VersionId := 0

/-- The id of things that were never taken away. -/
def VersionId.greatest : VersionId := 999999

/-- A version as it was written. -/
structure Version where
  major : Nat
  minor : Option Nat
  patch : Option Nat
deriving Repr, DecidableEq

namespace Version

/-- Majors above this one are years of the standard. -/
def lastDottedMajor : Nat := 90

/-- The largest minor or patch of a dotted version. -/
def lastComponent : Nat := 99

def isEdition (v : Version) : Bool := lastDottedMajor < v.major

def id (v : Version) : VersionId :=
  if v.isEdition then v.major
  else v.major * 10000 + v.minor.getD 0 * 100 + v.patch.getD lastComponent

/-- The release series of the version, `major` or `major.minor`, by which the
supported versions of a family are listed. -/
def series (v : Version) : String :=
  match v.minor with
  | some minor => toString v.major ++ "." ++ toString minor
  | none => toString v.major

/-- The version as text. A patch is shown only after a minor. -/
def text (v : Version) : String :=
  match v.minor, v.patch with
  | some _, some patch => v.series ++ "." ++ toString patch
  | _, _ => v.series

end Version

end SqlDialect
