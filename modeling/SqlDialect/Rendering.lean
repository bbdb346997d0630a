import SqlDialect.Collation
import SqlDialect.Settings
import SqlDialect.Text.Quoted

/-!
# Writing SQL

How names, string literals, types and options are written under given settings.

A name is left bare only if the settings allow it, it is a run of letters,
digits, `_` and `$` that is not all digits, and it is not reserved. A quoted
name doubles its quote. A string literal doubles the apostrophe and, unless the
mode says that the backslash is an ordinary character, the backslash.
-/

namespace SqlDialect.Settings

/-! ## Names -/

def isNameChar (c : Char) : Bool :=
  Text.isUpperLetter c || Text.isLowerLetter c || Text.isDigit c || c == '_' || c == '$'

/-- Can the text be read as a name without quotes? -/
def isPlainName (cs : List Char) : Bool :=
  !cs.isEmpty && cs.all isNameChar && !cs.all Text.isDigit

def quoteChar (s : Settings) : Char :=
  if s.mode.contains .ansiQuotes then '"' else s.platform.naming.quote

def needsQuotes (s : Settings) (name : String) : Bool :=
  s.quoteAllNames || s.platform.isReserved name || !isPlainName name.toList

def renderName (s : Settings) (name : String) : String :=
  if s.needsQuotes name then
    String.ofList (Text.enclosed s.quoteChar [s.quoteChar] name.toList)
  else name

/-! ## String literals -/

def backslashEscapes (s : Settings) : Bool := !s.mode.contains .noBackslashEscapes

def doubledInStrings (s : Settings) : List Char :=
  if s.backslashEscapes then [Text.apostrophe, Text.backslash] else [Text.apostrophe]

def renderString (s : Settings) (text : String) : String :=
  String.ofList (Text.enclosed Text.apostrophe s.doubledInStrings text.toList)

/-! ## Types, options and values -/

def renderType (s : Settings) (t : DataType) : String :=
  if s.canonicalizeTypes then (t.canonical (s.mode.contains .realAsFloat)).spelling
  else t.spelling

/-- What stands between an option and its value. -/
def renderEquals (s : Settings) : String := if s.optionalEquals then " = " else " "

def renderCharset (_ : Settings) (c : Charset) : String := c.name

def renderCollation (_ : Settings) (c : Collation) : String := c.name

def renderMode (s : Settings) (m : Mode) : String := s.renderString m.text

end SqlDialect.Settings
