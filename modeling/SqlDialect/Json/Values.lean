import SqlDialect.Builtin.Basic
import SqlDialect.Charset.Basic
import SqlDialect.Json.Reader
import SqlDialect.Mode.Flag
import SqlDialect.ObjectKind
import SqlDialect.Version.Basic

/-!
# Values of the dialect in JSON

Enumerations are written as tags, exactly as they are spelled. A tag is a
string, or an object whose only member has the tag as its key and `null` as its
value. A version is an object with the members `major`, `minor` and `patch`, of
which the last two may be missing or `null`; further members are passed over,
and none of the three may be repeated. It can also be the array of the three.
-/

namespace SqlDialect

namespace Json

/-- A number of 32 bits, written in digits only. -/
def number? : Json → Option Nat
  | .number literal => Text.number? literal
  | _ => none

/-- `null`, or a number of 32 bits. -/
def optionalNumber? : Json → Option (Option Nat)
  | .null => some none
  | j => j.number?.map some

def tag? : Json → Option String
  | .string content => content
  | .object [(key, .null)] => key
  | _ => none

/-- The member of a key, if it is there once; `none` if it is repeated. -/
def member? (members : List (Option String × Json)) (key : String) : Option (Option Json) :=
  match members.filter (·.1 == some key) with
  | [] => some none
  | [(_, value)] => some (some value)
  | _ => none

/-- The element of an enumeration with the given tag. -/
def choice? {α : Type} (all : List α) (tagOf : α → String) (j : Json) : Option α :=
  j.tag?.bind fun t => all.find? fun a => tagOf a == t

end Json

def VersionId.ofJson? (j : Json) : Option VersionId := j.number?

namespace Version

def optionalComponent? (members : List (Option String × Json)) (key : String) :
    Option (Option Nat) :=
  match Json.member? members key with
  | none => none
  | some none => some none
  | some (some j) => j.optionalNumber?

/-- The version of an object or array. -/
def ofJson? : Json → Option Version
  | .object members =>
    if members.all (·.1.isSome) then
      match Json.member? members "major" with
      | some (some j) =>
        j.number?.bind fun major =>
          (optionalComponent? members "minor").bind fun minor =>
            (optionalComponent? members "patch").map fun patch => ⟨major, minor, patch⟩
      | _ => none
    else none
  | .array [a, b, c] =>
    a.number?.bind fun major =>
      b.optionalNumber?.bind fun minor => c.optionalNumber?.map fun patch => ⟨major, minor, patch⟩
  | _ => none

end Version

def Family.ofJson? : Json → Option Family := Json.choice? Family.all Family.name

def DataType.ofJson? : Json → Option DataType := Json.choice? DataType.all DataType.tag

def BuiltinKind.ofJson? : Json → Option BuiltinKind :=
  Json.choice? BuiltinKind.all BuiltinKind.tag

def ModeFlag.ofJson? : Json → Option ModeFlag := Json.choice? ModeFlag.all ModeFlag.name

def ObjectKind.ofJson? : Json → Option ObjectKind := Json.choice? ObjectKind.all ObjectKind.tag

def Charset.ofJson? (j : Json) : Option Charset :=
  if j.tag? = some "utf8mb3" then some .utf8 else Json.choice? Charset.all Charset.name j

end SqlDialect
