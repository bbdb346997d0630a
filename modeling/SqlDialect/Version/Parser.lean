import SqlDialect.Text.Ascii
import SqlDialect.Text.Blank
import SqlDialect.Version.Basic

/-!
# Reading versions

`Version.parse` reads `major`, `major.minor` or `major.minor.patch`. Blanks
around the text and around each segment are allowed, leading zeros too. The
checks come in a fixed order: the segments from left to right, then their
count, then the range of minor and patch.
-/

namespace SqlDialect

/-- Why a text is not a version. Each cause but `empty` holds the trimmed
text. -/
inductive VersionError where
  | empty
  /-- `segment` is not a number of 32 bits. -/
  | invalidSegment (input segment : String)
  | tooManySegments (input : String)
  /-- A minor or patch of a dotted version is above `Version.lastComponent`. -/
  | outOfRange (input : String) (value : Nat)
deriving Repr, DecidableEq

def VersionError.message : VersionError → String
  | .empty => "Empty version string"
  | .invalidSegment input segment => s!"Invalid version segment '{segment}' in '{input}'"
  | .tooManySegments input =>
    s!"Too many version segments in '{input}', expected at most major.minor.patch"
  | .outOfRange input value => s!"Version component {value} in '{input}' is out of range (0-99)"

namespace Version

/-- The numbers of the segments, or the first segment that is none. -/
def readSegments : List (List Char) → Except (List Char) (List Nat)
  | [] => .ok []
  | segment :: rest =>
    match Text.number? (Text.trim segment) with
    | none => .error (Text.trim segment)
    | some n =>
      match readSegments rest with
      | .error bad => .error bad
      | .ok ns => .ok (n :: ns)

def ofComponents? : List Nat → Option Version
  | [] => none
  | major :: rest => some ⟨major, rest[0]?, rest[1]?⟩

/-- The first of minor and patch that is too large for a dotted version. -/
def outOfRange? (v : Version) : Option Nat :=
  if v.isEdition then none
  else (v.minor.toList ++ v.patch.toList).find? (lastComponent < ·)

def parse (s : String) : Except VersionError Version :=
  let t := Text.trim s.toList
  let input := String.ofList t
  if t.isEmpty then .error .empty
  else
    let segments := Text.fields (· == '.') t
    match readSegments (segments.take 3) with
    | .error bad => .error (.invalidSegment input (String.ofList bad))
    | .ok components =>
      if 3 < segments.length then .error (.tooManySegments input)
      else match ofComponents? components with
        | none => .error .empty
        | some v =>
          match v.outOfRange? with
          | some value => .error (.outOfRange input value)
          | none => .ok v

end Version

end SqlDialect
