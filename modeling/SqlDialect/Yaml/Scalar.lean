import SqlDialect.Json.Literal
import SqlDialect.Text.Ascii
import SqlDialect.Yaml.Cursor

/-!
# Scalars of YAML

The ways in which YAML writes a text: plain, between single or double quotes,
and as a block after `|` or `>`. A line break within a plain or quoted scalar
stands for a space, several for one less (`folded`).
-/

namespace SqlDialect.Yaml

/-- A text and whether it was written plainly, so that it may mean something
else than itself. -/
structure Scalar where
  text : String
  plain : Bool
deriving Repr, DecidableEq

/-- The scalar of which nothing is written. -/
def Scalar.absent : Scalar := ⟨"", true⟩

/-- A scalar and the place after it. -/
structure Read where
  scalar : Scalar
  place : Place
deriving Repr, DecidableEq

/-- What line breaks in a row stand for. -/
def folded : List Char → List Char
  | ['\n'] => [' ']
  | '\n' :: more => more
  | breaks => breaks

/-- Blanks and line breaks that were read but do not belong to the scalar unless
more of it follows, the last one first. -/
structure Pending where
  gap : List Char
  breaks : List Char
  /-- A line was continued by a backslash, so that breaks are kept as they are. -/
  continued : Bool
deriving Repr, DecidableEq

namespace Pending

def clear : Pending := ⟨[], [], false⟩

def broken (p : Pending) : Bool := p.continued || !p.breaks.isEmpty

/-- A blank was read: on a new line it is indentation. -/
def addGap (p : Pending) (c : Char) : Pending :=
  if p.broken then p else { p with gap := c :: p.gap }

/-- A line break was read: blanks before it are dropped. -/
def addBreak (p : Pending) (c : Char) : Pending := { p with gap := [], breaks := c :: p.breaks }

def text (p : Pending) : List Char :=
  if p.continued then p.breaks.reverse
  else if p.breaks.isEmpty then p.gap.reverse
  else folded p.breaks.reverse

/-- What was read, the last character first, after what is pending has turned out
to belong to it. -/
def settle (p : Pending) (out : List Char) : List Char := p.text.reverse ++ out

end Pending

/-- The scalar of which `out` was read, the last character first. -/
def Scalar.ofReversed (out : List Char) (plain : Bool) : Scalar :=
  ⟨String.ofList out.reverse, plain⟩

/-! ## Plain scalars -/

def indicators : List Char :=
  ['-', '?', ':', ',', '[', ']', '\x7b', '\x7d', '#', '&', '*', '!', '|', '>', '\x27', '"', '%',
   '@', '\x60']

/-- The characters that end a plain scalar in a flow collection. -/
def flowIndicators : List Char := [',', '[', ']', '\x7b', '\x7d']

/-- Does a plain scalar start here? -/
def startsPlain (flow : Bool) : List Char → Bool
  | [] => false
  | c :: rest =>
    if isGap c || isBreak c then false
    else if indicators.contains c then
      (c == '-' || (!flow && (c == '?' || c == ':'))) && !endsWord rest
    else true

/-- Is a colon at the front, before `rest`, out of place in a flow collection? -/
def strayColon (c : Char) (rest : List Char) : Bool :=
  c == ':' && match rest with
    | d :: _ => d == '?' || flowIndicators.contains d
    | [] => false

/-- The plain scalar of which `out` was read, the last character first, when it
ends before `rest`. -/
def endPlain (rest : List Char) (line column : Nat) (out : List Char) (p : Pending) : Read :=
  ⟨.ofReversed out true, ⟨⟨rest, line, column⟩, p.broken⟩⟩

/-- The rest of a plain scalar of which `out` was read, the last character first.
Lines that continue it are indented by at least `indent`, unless they are in a
flow collection. -/
def readPlainRest (flow : Bool) (indent : Nat) :
    List Char → (line column : Nat) → (out : List Char) → Pending → Option Read
  | [], line, column, out, p => some (endPlain [] line column out p)
  | c :: rest, line, column, out, p =>
    if isBreak c then readPlainRest flow indent rest (line + 1) 0 out (p.addBreak c)
    else if isGap c then
      if p.broken && c == '\t' && column < indent then none
      else readPlainRest flow indent rest line (column + 1) out (p.addGap c)
    else if (p.broken && !flow && column < indent) ||
        (column == 0 && (startsMarker '-' (c :: rest) || startsMarker '.' (c :: rest))) ||
        (c == '#' && (p.broken || !p.gap.isEmpty)) then
      some (endPlain (c :: rest) line column out p)
    else if flow && strayColon c rest then none
    else if (c == ':' && endsWord rest) || (flow && flowIndicators.contains c) then
      some (endPlain (c :: rest) line column out p)
    else readPlainRest flow indent rest line (column + 1) (c :: p.settle out) .clear

def readPlain (flow : Bool) (indent : Nat) (p : Cursor) : Option Read :=
  if startsPlain flow p.rest then readPlainRest flow indent p.rest p.line p.column [] .clear
  else none

/-! ## Quoted scalars -/

/-- The rest of a scalar between single quotes of which `out` was read, the last
character first. -/
def readSingleRest :
    List Char → (line column : Nat) → (out : List Char) → Pending → Option Read
  | [], _, _, _, _ => none
  | '\x27' :: '\x27' :: rest, line, column, out, p =>
    readSingleRest rest line (column + 2) ('\x27' :: p.settle out) .clear
  | c :: rest, line, column, out, p =>
    if column == 0 && (startsMarker '-' (c :: rest) || startsMarker '.' (c :: rest)) then none
    else if isBreak c then readSingleRest rest (line + 1) 0 out (p.addBreak c)
    else if isGap c then readSingleRest rest line (column + 1) out (p.addGap c)
    else if c == '\x27' then
      some ⟨.ofReversed (p.settle out) false, ⟨⟨rest, line, column + 1⟩, false⟩⟩
    else readSingleRest rest line (column + 1) (c :: p.settle out) .clear

def escape? (c : Char) : Option Char :=
  if c == '0' then some '\x00'
  else if c == 'a' then some '\x07'
  else if c == 'b' then some '\x08'
  else if c == 't' || c == '\t' then some '\t'
  else if c == 'n' then some '\n'
  else if c == 'v' then some '\x0b'
  else if c == 'f' then some '\x0c'
  else if c == 'r' then some '\x0d'
  else if c == 'e' then some '\x1b'
  else if c == ' ' || c == '"' || c == '/' || c == '\\' then some c
  else if c == 'N' then some '\u0085'
  else if c == '_' then some '\u00a0'
  else if c == 'L' then some '\u2028'
  else if c == 'P' then some '\u2029'
  else none

def codePoint? (digits : List Char) : Option Char :=
  (Json.hexNumber? digits).bind fun n =>
    if (0xD800 ≤ n ∧ n ≤ 0xDFFF) ∨ 0x10FFFF < n then none else some (Char.ofNat n)

/-- The rest of a scalar between double quotes of which `out` was read, the last
character first. -/
def readDoubleRest :
    List Char → (line column : Nat) → (out : List Char) → Pending → Option Read
  | [], _, _, _, _ => none
  | '\\' :: 'x' :: a :: b :: rest, line, column, out, p =>
    (codePoint? [a, b]).bind fun c =>
      readDoubleRest rest line (column + 4) (c :: p.settle out) .clear
  | '\\' :: 'u' :: a :: b :: c :: d :: rest, line, column, out, p =>
    (codePoint? [a, b, c, d]).bind fun c =>
      readDoubleRest rest line (column + 6) (c :: p.settle out) .clear
  | '\\' :: 'U' :: a :: b :: c :: d :: e :: f :: g :: h :: rest, line, column, out, p =>
    (codePoint? [a, b, c, d, e, f, g, h]).bind fun c =>
      readDoubleRest rest line (column + 10) (c :: p.settle out) .clear
  | '\\' :: e :: rest, line, column, out, p =>
    if isBreak e then readDoubleRest rest (line + 1) 0 (p.settle out) ⟨[], [], true⟩
    else (escape? e).bind fun c =>
      readDoubleRest rest line (column + 2) (c :: p.settle out) .clear
  | c :: rest, line, column, out, p =>
    if column == 0 && (startsMarker '-' (c :: rest) || startsMarker '.' (c :: rest)) then none
    else if isBreak c then readDoubleRest rest (line + 1) 0 out (p.addBreak c)
    else if isGap c then readDoubleRest rest line (column + 1) out (p.addGap c)
    else if c == '"' then
      some ⟨.ofReversed (p.settle out) false, ⟨⟨rest, line, column + 1⟩, false⟩⟩
    else if c == '\\' then none
    else readDoubleRest rest line (column + 1) (c :: p.settle out) .clear

def readQuotedScalar (p : Cursor) : Option Read :=
  match p.rest with
  | '\x27' :: rest => readSingleRest rest p.line (p.column + 1) [] .clear
  | '"' :: rest => readDoubleRest rest p.line (p.column + 1) [] .clear
  | _ => none

/-- The scalar that starts here, in the middle of a line or in a flow
collection. -/
def readInline (flow : Bool) (indent : Nat) (p : Cursor) : Option Read :=
  if p.sees '\x27' || p.sees '"' then readQuotedScalar p else readPlain flow indent p

end SqlDialect.Yaml
