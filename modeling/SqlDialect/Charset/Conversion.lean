import SqlDialect.Charset.Basic

/-!
# Conversion names

A value can name a character set or a conversion `first_second` between a
character set and a second part, which is a character set or one of a few old
names. `Charset.validateName` gives the name in small letters, with `koi8`
spelled out as `koi8r`.
-/

namespace SqlDialect.Charset

/-- Second parts of conversions that are no character sets. -/
def legacyParts : List String :=
  ["alt", "croat", "czech", "danish", "dos", "estonia", "german1", "hungarian", "koi8_ru",
   "koi8_ukr", "usa7", "win1250", "win1251", "win1251ukr"]

/-- The full name of the second part of a conversion. -/
def secondPart (s : String) : String := if s = "koi8" then "koi8r" else s

def isSecondPart (s : String) : Bool := isKnown s || legacyParts.contains s

/-- The name of a character set or conversion in small letters. -/
def validateName (s : String) : Except Error String :=
  let unknown := Error.unknownCharset (Text.trimmed s)
  let key := Text.lower (Text.trimmed s)
  match Text.cutAt '_' key.toList with
  | some (l, r) =>
    let first := String.ofList l
    let second := secondPart (String.ofList r)
    if isKnown first && isSecondPart second then .ok (first ++ "_" ++ second) else .error unknown
  | none => if isKnown key then .ok key else .error unknown

end SqlDialect.Charset
