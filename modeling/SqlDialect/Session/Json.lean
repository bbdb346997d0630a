import SqlDialect.Json.Reader
import SqlDialect.Session.Field

/-!
# Sessions in JSON

A session is written as an object, one member on a line, with the fields that
are set in the order of `SessionField.all`. It is read from an object with any
of the fields in any order, or from an array with the first few fields in their
order; `null` means that a field is unset.
-/

namespace SqlDialect

namespace FieldValue

/-- The value as it is written; what is unset is not. -/
def json? : FieldValue → Option String
  | .unset => none
  | .text s => some (Json.quoted s)
  | .switch true => some "true"
  | .switch false => some "false"

/-- The value that a document gives. -/
def ofJson? : Json → Option FieldValue
  | .null => some .unset
  | .string (some s) => some (.text s)
  | .bool b => some (.switch b)
  | _ => none

end FieldValue

namespace Session

/-- The line of a field that is set. -/
def jsonLine? (s : Session) (f : SessionField) : Option String :=
  (s.get f).json?.map fun value => "  " ++ Json.quoted f.name ++ ": " ++ value

def toJson (s : Session) : String :=
  "\x7b\n" ++ ",\n".intercalate (SessionField.all.filterMap s.jsonLine?) ++ "\n\x7d"

def jsonMember? : Option String × Json → Option (SessionField × FieldValue)
  | (some key, value) =>
    (SessionField.named? key).bind fun f => (FieldValue.ofJson? value).map fun v => (f, v)
  | (none, _) => none

def ofJsonValue? : Json → Option Session
  | .object members => (members.mapM jsonMember?).bind ofFields?
  | .array items =>
    if items.length ≤ SessionField.all.length then
      (items.mapM FieldValue.ofJson?).bind fun values => ofFields? (SessionField.all.zip values)
    else none
  | _ => none

def ofJson (text : String) : Except Error Session :=
  match (Json.read? text).bind ofJsonValue? with
  | some s => .ok s
  | none => .error (.invalidDocument .json)

end Session

end SqlDialect
