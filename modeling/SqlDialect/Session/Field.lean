import SqlDialect.Session.Basic

/-!
# The fields of a session

In documents a session is a set of named fields. A field holds a text or a
switch, or it is unset, which only the family may not be. No field may occur
twice.
-/

namespace SqlDialect

inductive SessionField where
  | family | version | delimiter | charset | mode | quoteAllNames | canonicalizeTypes
  | verboseOutput | optionalEquals
deriving Repr, DecidableEq

/-- What a document says about a field. -/
inductive FieldValue where
  | unset
  | text (s : String)
  | switch (b : Bool)
deriving Repr, DecidableEq

namespace FieldValue

def ofText : Option String → FieldValue
  | some t => .text t
  | none => .unset

def ofSwitch : Option Bool → FieldValue
  | some b => .switch b
  | none => .unset

def text? : FieldValue → Option (Option String)
  | .unset => some none
  | .text t => some (some t)
  | .switch _ => none

def switch? : FieldValue → Option (Option Bool)
  | .unset => some none
  | .switch b => some (some b)
  | .text _ => none

end FieldValue

namespace SessionField

/-- All fields, in the order in which they are written. -/
def all : List SessionField :=
  [.family, .version, .delimiter, .charset, .mode, .quoteAllNames, .canonicalizeTypes,
   .verboseOutput, .optionalEquals]

def name : SessionField → String
  | .family => "family"
  | .version => "version"
  | .delimiter => "delimiter"
  | .charset => "charset"
  | .mode => "sql_mode"
  | .quoteAllNames => "quote_all_names"
  | .canonicalizeTypes => "canonicalize_types"
  | .verboseOutput => "verbose_output"
  | .optionalEquals => "optional_equals"

def named? (name : String) : Option SessionField := all.find? fun f => f.name == name

def isSwitch : SessionField → Bool
  | .quoteAllNames | .canonicalizeTypes | .verboseOutput | .optionalEquals => true
  | _ => false

end SessionField

namespace Session

def get (s : Session) : SessionField → FieldValue
  | .family => .text s.family
  | .version => .ofText s.version
  | .delimiter => .ofText s.delimiter
  | .charset => .ofText s.charset
  | .mode => .ofText s.mode
  | .quoteAllNames => .ofSwitch s.quoteAllNames
  | .canonicalizeTypes => .ofSwitch s.canonicalizeTypes
  | .verboseOutput => .ofSwitch s.verboseOutput
  | .optionalEquals => .ofSwitch s.optionalEquals

/-- The session with a field set, if the value is of the right kind. -/
def set? (s : Session) : SessionField → FieldValue → Option Session
  | .family, .text t => some { s with family := t }
  | .family, _ => none
  | .version, v => v.text?.map fun t => { s with version := t }
  | .delimiter, v => v.text?.map fun t => { s with delimiter := t }
  | .charset, v => v.text?.map fun t => { s with charset := t }
  | .mode, v => v.text?.map fun t => { s with mode := t }
  | .quoteAllNames, v => v.switch?.map fun b => { s with quoteAllNames := b }
  | .canonicalizeTypes, v => v.switch?.map fun b => { s with canonicalizeTypes := b }
  | .verboseOutput, v => v.switch?.map fun b => { s with verboseOutput := b }
  | .optionalEquals, v => v.switch?.map fun b => { s with optionalEquals := b }

def setAll? : Session → List (SessionField × FieldValue) → Option Session
  | s, [] => some s
  | s, (f, v) :: rest => (s.set? f v).bind fun s' => setAll? s' rest

def distinct : List SessionField → Bool
  | [] => true
  | f :: rest => !rest.contains f && distinct rest

/-- The session of which a document says this. -/
def ofFields? (fields : List (SessionField × FieldValue)) : Option Session :=
  if distinct (fields.map (·.1)) then setAll? default fields else none

end Session

end SqlDialect
