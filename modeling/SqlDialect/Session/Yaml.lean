import SqlDialect.Session.Field
import SqlDialect.Yaml.Mapping

/-!
# Sessions in YAML

A session is read from a mapping with any of the fields. A text field takes
every scalar as it is written. A plain scalar that means nothing (`~`, `null` or
nothing at all) leaves an optional field unset, and a switch takes nothing but a
plain `true` or `false`.
-/

namespace SqlDialect

namespace Yaml.Scalar

def isNull (s : Scalar) : Bool := s.plain && ["", "~", "null", "Null", "NULL"].contains s.text

def switch? (s : Scalar) : Option Bool :=
  if s.plain && ["true", "True", "TRUE"].contains s.text then some true
  else if s.plain && ["false", "False", "FALSE"].contains s.text then some false
  else none

end Yaml.Scalar

namespace Session

/-- What a scalar says about a field. -/
def yamlValue? (f : SessionField) (s : Yaml.Scalar) : Option FieldValue :=
  if f == .family then some (.text s.text)
  else if s.isNull then some .unset
  else if f.isSwitch then s.switch?.map .switch
  else some (.text s.text)

def yamlEntry? (e : Yaml.Entry) : Option (SessionField × FieldValue) :=
  (SessionField.named? e.key.text).bind fun f => (yamlValue? f e.value).map fun v => (f, v)

def ofYaml (text : String) : Except Error Session :=
  match ((Yaml.readMapping? text).bind fun entries => entries.mapM yamlEntry?).bind ofFields? with
  | some s => .ok s
  | none => .error (.invalidDocument .yaml)

end Session

end SqlDialect
