import SqlDialect.Mode.Basic

/-!
# Modes as text and as numbers

A mode is written as the names of its given flags, by rising bit, with commas
between them, and read from any list of names with commas between: blanks
around a name, empty items, order, repetition and case do not matter. The item
`DEFAULT` means the default mode of a platform, and can be read only where there
is one.
-/

namespace SqlDialect

inductive ModeError where
  | negative (value : Int)
  /-- These bits of the number belong to no flag. -/
  | unknownBits (bits : Nat)
  | unknownName (name : String)
  /-- `DEFAULT` stands where there is no platform. -/
  | defaultWithoutPlatform
deriving Repr, DecidableEq

def ModeError.message : ModeError → String
  | .negative value => s!"negative mode value {value}"
  | .unknownBits bits => "unknown mode bits 0x" ++ String.ofList (Nat.toDigits 16 bits)
  | .unknownName name => s!"unknown mode '{name}'"
  | .defaultWithoutPlatform => "DEFAULT needs a platform to resolve against"

/-- The flag of a name, up to case and surrounding blanks. -/
def ModeFlag.parse (name : String) : Except ModeError ModeFlag :=
  match ModeFlag.named? name with
  | some f => .ok f
  | none => .error (.unknownName (Text.trimmed name))

namespace Mode

def text (m : Mode) : String := ",".intercalate (m.flags.map ModeFlag.name)

/-- From this number on there are bits that belong to no flag. -/
def numberBound : Nat := 1 <<< ModeFlag.all.length

def ofInt (n : Int) : Except ModeError Mode :=
  if n < 0 then .error (.negative n)
  else
    let unknown := n.toNat - n.toNat % numberBound
    if unknown ≠ 0 then .error (.unknownBits unknown)
    else .ok (ofWord (BitVec.ofNat 64 n.toNat))

/-- The items of a list of names: what stands between commas, trimmed and in
capital letters, blank items dropped. -/
def items (s : String) : List String :=
  ((Text.fields (· == ',') s.toList).map Text.trim).filterMap fun item =>
    if item.isEmpty then none else some (Text.upper (String.ofList item))

def itemWord (default : Option Mode) (item : String) : Except ModeError ModeWord :=
  if item = "DEFAULT" then
    match default with
    | some m => .ok m.value
    | none => .error .defaultWithoutPlatform
  else
    match ModeFlag.parse item with
    | .ok f => .ok f.bit
    | .error e => .error e

/-- The flags that the items give together, or the error of the first item that
is wrong. -/
def readItems (default : Option Mode) : List String → ModeWord → Except ModeError ModeWord
  | [], w => .ok w
  | item :: rest, w =>
    match itemWord default item with
    | .error e => .error e
    | .ok v => readItems default rest (w ||| v)

/-- Read a list of names in which `DEFAULT` means `default`. -/
def parseWith (default : Option Mode) (s : String) : Except ModeError Mode :=
  match readItems default (items s) 0 with
  | .ok w => .ok (ofWord w)
  | .error e => .error e

def parse (s : String) : Except ModeError Mode := parseWith none s

end Mode

end SqlDialect
