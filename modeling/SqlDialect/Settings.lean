import SqlDialect.Charset.Basic
import SqlDialect.Platform.Basic

/-!
# Settings

How SQL is written in one session: the platform it is for, and seven
preferences. Every edit changes one preference and leaves the others; an edit
that fails changes nothing.
-/

namespace SqlDialect

structure Settings where
  platform : Platform
  delimiter : String
  charset : Option Charset
  mode : Mode
  quoteAllNames : Bool
  canonicalizeTypes : Bool
  verboseOutput : Bool
  optionalEquals : Bool
deriving Repr, DecidableEq

namespace Settings

/-- The settings with which a session on the platform starts. -/
def ofPlatform (p : Platform) : Settings where
  platform := p
  delimiter := ";"
  charset := none
  mode := p.defaultMode
  quoteAllNames := true
  canonicalizeTypes := true
  verboseOutput := false
  optionalEquals := true

/-- A list of mode names in which `DEFAULT` means the default mode of the
platform. -/
def readMode (s : Settings) (text : String) : Except ModeError Mode :=
  Mode.parseWith (some s.platform.defaultMode) text

inductive Edit where
  | delimiter (d : String)
  | charset (c : Option Charset)
  | mode (m : Mode)
  | modeText (text : String)
  | quoteAllNames (b : Bool)
  | canonicalizeTypes (b : Bool)
  | verboseOutput (b : Bool)
  | optionalEquals (b : Bool)
deriving Repr, DecidableEq

def edit (s : Settings) : Edit → Except Error Settings
  | .delimiter d => .ok { s with delimiter := d }
  | .charset c => .ok { s with charset := c }
  | .mode m => .ok { s with mode := m }
  | .modeText text =>
    match s.readMode text with
    | .ok m => .ok { s with mode := m }
    | .error e => .error (.invalidMode e)
  | .quoteAllNames b => .ok { s with quoteAllNames := b }
  | .canonicalizeTypes b => .ok { s with canonicalizeTypes := b }
  | .verboseOutput b => .ok { s with verboseOutput := b }
  | .optionalEquals b => .ok { s with optionalEquals := b }

def tryEdit (s : Settings) (e : Edit) : Settings :=
  match s.edit e with
  | .ok s' => s'
  | .error _ => s

def editAll (s : Settings) (es : List Edit) : Settings := es.foldl tryEdit s

end Settings

end SqlDialect
