import SqlDialect.Family
import SqlDialect.Mode.Text

/-!
# Errors

The ways in which a request can be refused, and the one function that puts them
into words. All of them are faults of the input: the same request is refused
again.
-/

namespace SqlDialect

inductive DocumentFormat where
  | json
  | yaml
deriving Repr, DecidableEq

def DocumentFormat.name : DocumentFormat → String
  | .json => "JSON"
  | .yaml => "YAML"

inductive Error where
  | unknownFamily (name : String)
  /-- The text names no supported version of the family. -/
  | unknownVersion (family : Family) (version : String)
  /-- The text or number is no mode. -/
  | invalidMode (cause : ModeError)
  | unknownCharset (name : String)
  | unknownCharsetId (id : Nat)
  | unknownCollation (name : String)
  | unknownCollationId (id : Nat)
  /-- The collation belongs to another character set. -/
  | foreignCollation (collation charset : String)
  /-- Nothing is known of the capabilities of the family. -/
  | noTables (family : Family)
  | blankDelimiter
  /-- The text is no description of a session in this format. -/
  | invalidDocument (format : DocumentFormat)
deriving Repr, DecidableEq

def Error.message : Error → String
  | .unknownFamily name => s!"Unknown platform family '{name}'"
  | .unknownVersion family version =>
    "Unknown version '" ++ version ++ "' for platform family '" ++ family.name ++ "'"
  | .invalidMode cause => "Invalid SQL mode: " ++ cause.message
  | .unknownCharset name => s!"Unknown charset: {name}"
  | .unknownCharsetId id => s!"Unknown charset: id {id}"
  | .unknownCollation name => s!"Unknown collation: {name}"
  | .unknownCollationId id => s!"Unknown collation: id {id}"
  | .foreignCollation collation charset =>
    s!"Invalid definition: collation '{collation}' is not valid for character set '{charset}'"
  | .noTables family =>
    "Invalid platform configuration: no capability tables are registered for family '" ++
      family.name ++ "'"
  | .blankDelimiter => "Invalid platform configuration: delimiter must not be empty"
  | .invalidDocument format =>
    "Invalid platform configuration: invalid " ++ format.name ++ " settings"

end SqlDialect
