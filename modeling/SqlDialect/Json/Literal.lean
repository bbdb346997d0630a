/-!
# String literals of JSON

Writing escapes the quote, the backslash and the control characters and nothing
else (`quoted`). Reading takes any literal that the format allows: an escape
`\uXXXX` gives one unit of UTF-16, and two units that form a surrogate pair give
one character.

Reading goes in two steps: `scan` cuts the literal into `Piece`s, `assemble`
puts the pieces together and fails where half of a pair is missing.
-/

namespace SqlDialect.Json

/-! ## Hexadecimal digits -/

def hexValue? (c : Char) : Option Nat :=
  let n := c.toNat
  if 0x30 ≤ n ∧ n ≤ 0x39 then some (n - 0x30)
  else if 0x61 ≤ n ∧ n ≤ 0x66 then some (n - 0x57)
  else if 0x41 ≤ n ∧ n ≤ 0x46 then some (n - 0x37)
  else none

def hexNumber? (cs : List Char) : Option Nat :=
  cs.foldl (fun acc c => acc.bind fun n => (hexValue? c).map (n * 16 + ·)) (some 0)

def hexDigit (n : Nat) : Char := Char.ofNat (if n < 10 then 0x30 + n else 0x57 + n)

/-! ## Writing -/

def escaped (c : Char) : List Char :=
  if c = '"' then ['\\', '"']
  else if c = '\\' then ['\\', '\\']
  else if c = '\x08' then ['\\', 'b']
  else if c = '\x0c' then ['\\', 'f']
  else if c = '\n' then ['\\', 'n']
  else if c = '\x0d' then ['\\', 'r']
  else if c = '\t' then ['\\', 't']
  else if c.toNat < 0x20 then
    ['\\', 'u', '0', '0', hexDigit (c.toNat / 16), hexDigit (c.toNat % 16)]
  else [c]

def quoted (s : String) : String :=
  String.ofList ('"' :: s.toList.flatMap escaped ++ ['"'])

/-! ## Reading -/

/-- A piece of a literal: a character, or a unit of UTF-16 given by number. -/
inductive Piece where
  | char (c : Char)
  | unit (n : Nat)
deriving Repr, DecidableEq

/-- The character that a backslash and a letter stand for. -/
def escape? (c : Char) : Option Char :=
  if c = '"' ∨ c = '\\' ∨ c = '/' then some c
  else if c = 'b' then some '\x08'
  else if c = 'f' then some '\x0c'
  else if c = 'n' then some '\n'
  else if c = 'r' then some '\x0d'
  else if c = 't' then some '\t'
  else none

/-- The pieces up to the closing quote, and what is left after it. -/
def scan : List Char → Option (List Piece × List Char)
  | [] => none
  | '"' :: rest => some ([], rest)
  | '\\' :: 'u' :: a :: b :: c :: d :: rest =>
    (hexNumber? [a, b, c, d]).bind fun n =>
      (scan rest).map fun (ps, left) => (.unit n :: ps, left)
  | '\\' :: e :: rest =>
    (escape? e).bind fun c => (scan rest).map fun (ps, left) => (.char c :: ps, left)
  | c :: rest =>
    if c.toNat < 0x20 ∨ c = '\\' then none
    else (scan rest).map fun (ps, left) => (.char c :: ps, left)

def isLeading (n : Nat) : Bool := 0xD800 ≤ n && n ≤ 0xDBFF

def isTrailing (n : Nat) : Bool := 0xDC00 ≤ n && n ≤ 0xDFFF

def assemble : List Piece → Option (List Char)
  | [] => some []
  | .char c :: rest => (assemble rest).map (c :: ·)
  | .unit h :: .unit l :: rest =>
    if isLeading h then
      if isTrailing l then
        (assemble rest).map (Char.ofNat (0x10000 + (h - 0xD800) * 0x400 + (l - 0xDC00)) :: ·)
      else none
    else if isTrailing h then none
    else (assemble (.unit l :: rest)).map (Char.ofNat h :: ·)
  | .unit h :: rest =>
    if isLeading h || isTrailing h then none else (assemble rest).map (Char.ofNat h :: ·)

/-- The content of a literal whose opening quote was read, and what is left after
it. -/
def readLiteral (cs : List Char) : Option (Option String × List Char) :=
  (scan cs).map fun (ps, left) => ((assemble ps).map String.ofList, left)

end SqlDialect.Json
