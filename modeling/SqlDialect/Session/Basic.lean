import SqlDialect.Platform.Pool
import SqlDialect.Settings

/-!
# Sessions

A `Session` describes settings in plain values: texts and switches, all but the
family optional. `Session.settings` turns it into `Settings` on a platform of a
pool. The checks come in a fixed order: family, version, capability tables,
delimiter, character set, mode; the first that fails gives the error. What is
left out keeps the value with which a session starts.
-/

namespace SqlDialect

structure Session where
  family : String
  version : Option String
  delimiter : Option String
  charset : Option String
  mode : Option String
  quoteAllNames : Option Bool
  canonicalizeTypes : Option Bool
  verboseOutput : Option Bool
  optionalEquals : Option Bool
deriving Repr, DecidableEq

namespace Session

def ofFamily (family : String) : Session :=
  ⟨family, none, none, none, none, none, none, none, none⟩

def default : Session := ofFamily "mysql"

def versionRequest (s : Session) : VersionRequest :=
  match s.version with
  | some text => .text text
  | none => .default

/-- The delimiter of the session: trimmed, and not blank. -/
def applyDelimiter (s : Session) (settings : Settings) : Except Error Settings :=
  match s.delimiter with
  | none => .ok settings
  | some d =>
    if (Text.trim d.toList).isEmpty then .error .blankDelimiter
    else settings.edit (.delimiter (Text.trimmed d))

def applyCharset (s : Session) (settings : Settings) : Except Error Settings :=
  match s.charset with
  | none => .ok settings
  | some name =>
    match Charset.parse name with
    | .error e => .error e
    | .ok c => settings.edit (.charset (some c))

/-- The mode of the session, in which `DEFAULT` means that of the platform. -/
def applyMode (s : Session) (settings : Settings) : Except Error Settings :=
  match s.mode with
  | none => .ok settings
  | some text => settings.edit (.modeText text)

def applySwitches (s : Session) (settings : Settings) : Settings :=
  { settings with
    quoteAllNames := s.quoteAllNames.getD settings.quoteAllNames
    canonicalizeTypes := s.canonicalizeTypes.getD settings.canonicalizeTypes
    verboseOutput := s.verboseOutput.getD settings.verboseOutput
    optionalEquals := s.optionalEquals.getD settings.optionalEquals }

def settingsOn (s : Session) (platform : Platform) : Except Error Settings :=
  match s.applyDelimiter (Settings.ofPlatform platform) with
  | .error e => .error e
  | .ok s₁ =>
    match s.applyCharset s₁ with
    | .error e => .error e
    | .ok s₂ =>
      match s.applyMode s₂ with
      | .error e => .error e
      | .ok s₃ => .ok (s.applySwitches s₃)

/-- The settings of the session on a platform of the pool, which is built if
need be. -/
def settings (catalog : Catalog) (pool : Pool) (s : Session) : Pool × Except Error Settings :=
  match pool.request catalog s.family s.versionRequest with
  | (pool', .error e) => (pool', .error e)
  | (pool', .ok found) => (pool', s.settingsOn found.platform)

end Session

end SqlDialect
