import SqlDialect.Mode.Availability
import SqlDialect.Naming
import SqlDialect.Platform.Preset
import SqlDialect.Platform.Resolution

/-!
# Platforms

A platform is everything that is known of one version of a family, resolved
once from the catalog (`Platform.build`). After that only its *current version*
can be changed, which is what readers are shown.

Lookups forgive the spelling: words are trimmed and compared without regard to
case, and operators and statements also without regard to the blanks between
their words.
-/

namespace SqlDialect

structure Platform where
  family : Family
  version : Version
  current : Version
  capabilities : Capabilities
  builtins : List Builtin
  defaultMode : Mode
deriving Repr, DecidableEq

namespace Platform

/-! ## Construction -/

/-- The name of the variable whose default is the default mode. -/
def modeVariable : String := "sql_mode"

/-- The default mode. In the lineage it is the default of `modeVariable`, or no flags
where there is no such variable; outside it, where there are no tables to build from
yet, it would be `ANSI`. -/
def modeOf (family : Family) (c : Capabilities) : Except ModeError Mode :=
  if family.isLineage then
    match c.variableNamed? modeVariable with
    | some v => Mode.parse v.default
    | none => .ok .empty
  else .ok (.ofFlag .ansi)

def build (catalog : Catalog) (family : Family) (version : Version) : Except Error Platform :=
  match catalog.layers family version.id with
  | .error e => .error e
  | .ok layers =>
    let capabilities := Capabilities.resolve layers
    match modeOf family capabilities with
    | .error e => .error (.invalidMode e)
    | .ok defaultMode =>
      .ok { family, version, current := version, capabilities, defaultMode,
            builtins := catalog.builtins family version.id }

/-! ## What it is -/

def id (p : Platform) : VersionId := p.version.id

def setCurrent (p : Platform) (v : Version) : Platform := { p with current := v }

def display (p : Platform) : String := p.family.displayName ++ " " ++ p.current.text

def presetFlags (p : Platform) : List ModeFlag := ModePreset.flagsFor p.family p.version

def naming (p : Platform) : Naming := p.family.naming

/-! ## Words -/

/-- Put a word into a list that is in strictly rising order. -/
def insertWord (w : String) : List String → List String
  | [] => [w]
  | x :: xs => if w < x then w :: x :: xs else if w = x then x :: xs else x :: insertWord w xs

/-- The words in strictly rising order of their code points. -/
def sortWords (ws : List String) : List String := ws.foldr insertWord []

def reservedWords (p : Platform) : List String := sortWords p.capabilities.reserved

def nonReservedWords (p : Platform) : List String := sortWords p.capabilities.keywords

/-- A word as it stands in the tables. -/
def wordKey (s : String) : String := Text.upper (Text.trimmed s)

/-- Several words as they stand in the tables. -/
def phraseKey (s : String) : String := Text.upper (Text.singleSpaced s)

def isReserved (p : Platform) (word : String) : Bool :=
  p.capabilities.reserved.contains (wordKey word)

def isKeyword (p : Platform) (word : String) : Bool :=
  p.capabilities.reserved.contains (wordKey word) ||
    p.capabilities.keywords.contains (wordKey word)

/-! ## Capabilities -/

def hasOperator (p : Platform) (operator : String) : Bool :=
  p.capabilities.operators.contains (phraseKey operator)

def isPreparable (p : Platform) (statement : String) : Bool :=
  p.capabilities.preparable.contains (phraseKey statement)

def hasType (p : Platform) (t : DataType) : Bool := p.capabilities.types.contains t

/-- The function of that name; of several, the one listed last. -/
def builtin? (p : Platform) (name : String) : Option Builtin :=
  p.builtins.reverse.find? fun f => Text.upper f.name == wordKey name

def hasBuiltin (p : Platform) (name : String) : Bool := (p.builtin? name).isSome

/-- A variable's name as it stands in the tables: one leading `@@` is dropped. -/
def variableKey (s : String) : String :=
  match Text.trim s.toList with
  | '@' :: '@' :: rest => Text.lower (String.ofList rest)
  | cs => Text.lower (String.ofList cs)

def variableNamed? (p : Platform) (name : String) : Option Variable :=
  p.capabilities.variableNamed? (variableKey name)

def maxLength? (p : Platform) (kind : ObjectKind) : Option Nat := p.capabilities.limit? kind

/-! ## Conditions -/

/-- Is it a platform of the named family with an id between the bounds? What is
not given is not asked. -/
def satisfies (p : Platform) (family : Option String) (least greatest : Option VersionId) :
    Bool :=
  let familyHolds := match family with
    | some name =>
      match Family.parse name with
      | .ok f => f == p.family
      | .error _ => false
    | none => true
  familyHolds && least.all (· ≤ p.id) && greatest.all (p.id ≤ ·)

end Platform

end SqlDialect
