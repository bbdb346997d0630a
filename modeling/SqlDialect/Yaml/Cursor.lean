/-!
# Places in a YAML text

The readers of YAML go over the text with a `Cursor`, which knows the line and
the column at which it stands, because indentation and line ends have a meaning.

Line breaks are made uniform first (`uniformBreaks`): `\r\n`, `\r` and the break
U+0085 become `\n`; the breaks U+2028 and U+2029 stay as they are.

A mark of the byte order may stand at the start of any line between two parts
of the text. It is passed over, but it takes up a column.
-/

namespace SqlDialect.Yaml

/-! ## Characters -/

def isAllowed (c : Char) : Bool :=
  let n := c.toNat
  n == 0x09 || n == 0x0A || n == 0x0D || (0x20 ≤ n && n ≤ 0x7E) || n == 0x85 ||
    (0xA0 ≤ n && n ≤ 0xFFFD) || 0x10000 ≤ n

def isBreak (c : Char) : Bool := c == '\n' || c == '\u2028' || c == '\u2029'

def isGap (c : Char) : Bool := c == ' ' || c == '\t'

/-- Is the character, in this column, a mark of the byte order? -/
def isByteOrderMark (c : Char) (column : Nat) : Bool := c == '\ufeff' && column == 0

/-- Every line break in one of its three forms. -/
def uniformBreaks : List Char → List Char
  | [] => []
  | '\x0d' :: '\n' :: rest => '\n' :: uniformBreaks rest
  | c :: rest =>
    (if c == '\x0d' || c == '\u0085' then '\n' else c) :: uniformBreaks rest

/-- Is the text at an end, a blank or a line break? -/
def endsWord : List Char → Bool
  | [] => true
  | c :: _ => isGap c || isBreak c

/-- Does the text start with three times `c`, followed by an end, a blank or a
line break? -/
def startsMarker (c : Char) (cs : List Char) : Bool :=
  cs.take 3 == [c, c, c] && endsWord (cs.drop 3)

/-! ## Cursors -/

structure Cursor where
  rest : List Char
  line : Nat
  column : Nat
deriving Repr, DecidableEq

namespace Cursor

def skip (p : Cursor) (n : Nat) : Cursor := ⟨p.rest.drop n, p.line, p.column + n⟩

def atEnd (p : Cursor) : Bool := p.rest.isEmpty

def atStartMarker (p : Cursor) : Bool := p.column == 0 && startsMarker '-' p.rest

def atEndMarker (p : Cursor) : Bool := p.column == 0 && startsMarker '.' p.rest

/-- Does nothing more of the document follow? -/
def atBoundary (p : Cursor) : Bool := p.atEnd || p.atStartMarker || p.atEndMarker

def sees (p : Cursor) (c : Char) : Bool := p.rest.head? == some c

/-- Does `c` stand here as a word of its own? -/
def seesWord (p : Cursor) (c : Char) : Bool := p.sees c && endsWord (p.rest.drop 1)

end Cursor

/-! ## Gaps -/

/-- A place between two parts of a text. It is `fresh` when a key of a block
mapping may start there, that is at the beginning of a line; there a tab is not
a blank. -/
structure Place where
  cursor : Cursor
  fresh : Bool
deriving Repr, DecidableEq

/-- The place after blanks, comments, line breaks and marks of the byte order,
outside of flow collections. -/
def skipBlock : (comment : Bool) → List Char → (line column : Nat) → (fresh : Bool) → Place
  | _, [], line, column, fresh => ⟨⟨[], line, column⟩, fresh⟩
  | comment, c :: rest, line, column, fresh =>
    if isBreak c then skipBlock false rest (line + 1) 0 true
    else if comment then skipBlock true rest line (column + 1) fresh
    else if c == ' ' || (c == '\t' && !fresh) || isByteOrderMark c column then
      skipBlock false rest line (column + 1) fresh
    else if c == '#' then skipBlock true rest line (column + 1) fresh
    else ⟨⟨c :: rest, line, column⟩, fresh⟩

/-- The place after blanks, comments, line breaks and marks of the byte order
within a flow collection. -/
def skipFlow : (comment : Bool) → List Char → (line column : Nat) → Cursor
  | _, [], line, column => ⟨[], line, column⟩
  | comment, c :: rest, line, column =>
    if isBreak c then skipFlow false rest (line + 1) 0
    else if comment || isGap c || isByteOrderMark c column then
      skipFlow comment rest line (column + 1)
    else if c == '#' then skipFlow true rest line (column + 1)
    else ⟨c :: rest, line, column⟩

namespace Place

/-- The next place at which something stands. -/
def next (p : Place) : Place :=
  skipBlock false p.cursor.rest p.cursor.line p.cursor.column p.fresh

end Place

namespace Cursor

/-- The next place within a flow collection at which something stands. -/
def nextInFlow (p : Cursor) : Cursor := skipFlow false p.rest p.line p.column

end Cursor

end SqlDialect.Yaml
