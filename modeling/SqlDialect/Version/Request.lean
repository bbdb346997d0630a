import SqlDialect.Error
import SqlDialect.Version.Parser

/-!
# Asking for a version

A version of a family can be asked for by default, by text, by number, or as a
`Version`. Only the supported release series can be had; any patch of them is
accepted.

The number of a dotted version is its id. For the standard, and for numbers
that are too small to be ids of dotted versions, the number is the major.
-/

namespace SqlDialect

inductive VersionRequest where
  | default
  | text (s : String)
  | number (n : Nat)
  | exact (v : Version)
deriving Repr, DecidableEq

namespace VersionRequest

/-- The smallest number that is read as the id of a dotted version. -/
def leastDottedId : Nat := 10000

/-- The version that a number means in a family. -/
def ofNumber (family : Family) (n : Nat) : Version :=
  if family.isLineage && leastDottedId ≤ n then
    ⟨n / 10000, some (n / 100 % 100), some (n % 100)⟩
  else ⟨n, none, none⟩

def ofText (family : Family) (s : String) : Except Error Version :=
  match Version.parse s with
  | .ok v => .ok v
  | .error _ => .error (.unknownVersion family s)

/-- The version that is meant, whether it is supported or not. -/
def meaning (r : VersionRequest) (family : Family) : Except Error Version :=
  match r with
  | .default => ofText family family.defaultSeries
  | .text s => ofText family s
  | .number n => .ok (ofNumber family n)
  | .exact v => .ok v

def resolve (r : VersionRequest) (family : Family) : Except Error Version :=
  match r.meaning family with
  | .error e => .error e
  | .ok v =>
    if family.supports v.series then .ok v else .error (.unknownVersion family v.text)

end VersionRequest

end SqlDialect
