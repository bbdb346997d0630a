import SqlDialect.Json.Basic
import SqlDialect.Json.Literal
import SqlDialect.Text.Ascii

/-!
# Reading JSON

`Json.read?` reads a text that holds one JSON value and nothing else but blanks.
There are no comments, no trailing commas and no other liberties.

The reader takes a value from the front of the characters and returns what is
left. Values nest to any depth: each call for a part takes one unit of `fuel`,
and two units for every character are always enough.
-/

namespace SqlDialect.Json

def isSpace (c : Char) : Bool := c == ' ' || c == '\t' || c == '\n' || c == '\x0d'

def skipSpace (cs : List Char) : List Char := cs.dropWhile isSpace

/-! ## Numbers -/

/-- A run of digits that is not empty, and what is left after it. -/
def takeDigits (cs : List Char) : Option (List Char × List Char) :=
  match cs.takeWhile Text.isDigit with
  | [] => none
  | ds => some (ds, cs.dropWhile Text.isDigit)

/-- The digits before the point: a zero, or a run that does not start with
one. -/
def takeWhole : List Char → Option (List Char × List Char)
  | '0' :: rest => some (['0'], rest)
  | cs => takeDigits cs

/-- The point and the digits after it, if there is a point. -/
def takeFraction : List Char → Option (List Char × List Char)
  | '.' :: rest => (takeDigits rest).map fun (ds, left) => ('.' :: ds, left)
  | cs => some ([], cs)

/-- The digits of an exponent, a sign allowed in front. -/
def takeSigned : List Char → Option (List Char × List Char)
  | '+' :: rest => (takeDigits rest).map fun (ds, left) => ('+' :: ds, left)
  | '-' :: rest => (takeDigits rest).map fun (ds, left) => ('-' :: ds, left)
  | cs => takeDigits cs

def takeExponent : List Char → Option (List Char × List Char)
  | 'e' :: rest => (takeSigned rest).map fun (ds, left) => ('e' :: ds, left)
  | 'E' :: rest => (takeSigned rest).map fun (ds, left) => ('E' :: ds, left)
  | cs => some ([], cs)

def takeMagnitude (cs : List Char) : Option (List Char × List Char) :=
  (takeWhole cs).bind fun (whole, r₁) =>
    (takeFraction r₁).bind fun (fraction, r₂) =>
      (takeExponent r₂).map fun (exponent, left) => (whole ++ fraction ++ exponent, left)

def takeNumber : List Char → Option (List Char × List Char)
  | '-' :: rest => (takeMagnitude rest).map fun (ds, left) => ('-' :: ds, left)
  | cs => takeMagnitude cs

/-! ## Values -/

mutual

/-- A value at the front, and what is left after it. -/
def readValue : Nat → List Char → Option (Json × List Char)
  | 0, _ => none
  | fuel + 1, cs =>
    match skipSpace cs with
    | 'n' :: 'u' :: 'l' :: 'l' :: rest => some (.null, rest)
    | 't' :: 'r' :: 'u' :: 'e' :: rest => some (.bool true, rest)
    | 'f' :: 'a' :: 'l' :: 's' :: 'e' :: rest => some (.bool false, rest)
    | '"' :: rest => (readLiteral rest).map fun (content, left) => (.string content, left)
    | '[' :: rest =>
      match skipSpace rest with
      | ']' :: left => some (.array [], left)
      | _ => (readItems fuel rest).map fun (items, left) => (.array items, left)
    | '\x7b' :: rest =>
      match skipSpace rest with
      | '\x7d' :: left => some (.object [], left)
      | _ => (readMembers fuel rest).map fun (members, left) => (.object members, left)
    | cs' => (takeNumber cs').map fun (literal, left) => (.number literal, left)

/-- The items of an array up to its end; there is at least one. -/
def readItems : Nat → List Char → Option (List Json × List Char)
  | 0, _ => none
  | fuel + 1, cs =>
    (readValue fuel cs).bind fun (item, left) =>
      match skipSpace left with
      | ',' :: rest => (readItems fuel rest).map fun (items, tail) => (item :: items, tail)
      | ']' :: tail => some ([item], tail)
      | _ => none

/-- The members of an object up to its end; there is at least one. -/
def readMembers : Nat → List Char → Option (List (Option String × Json) × List Char)
  | 0, _ => none
  | fuel + 1, cs =>
    match skipSpace cs with
    | '"' :: rest =>
      (readLiteral rest).bind fun (key, afterKey) =>
        match skipSpace afterKey with
        | ':' :: afterColon =>
          (readValue fuel afterColon).bind fun (value, left) =>
            match skipSpace left with
            | ',' :: rest' =>
              (readMembers fuel rest').map fun (members, tail) => ((key, value) :: members, tail)
            | '\x7d' :: tail => some ([(key, value)], tail)
            | _ => none
        | _ => none
    | _ => none

end

/-- The value of a text that holds one value and nothing else. -/
def read? (s : String) : Option Json :=
  let cs := s.toList
  match readValue (2 * cs.length + 2) cs with
  | some (value, left) => if (skipSpace left).isEmpty then some value else none
  | none => none

end SqlDialect.Json
