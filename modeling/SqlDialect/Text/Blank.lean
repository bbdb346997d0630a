/-!
# Blanks, trimming and splitting

Texts are read as lists of characters. A *blank* is a character with the
Unicode property `White_Space`; trimming and splitting into words go by
blanks, splitting into fields goes by any separator.

- `trim` drops the blanks at both ends,
- `fields` cuts at every separator and keeps empty fields,
- `words` cuts at blanks and drops empty words.

The functions on `String` (`trimmed`, `singleSpaced`) are these
functions between `String.toList` and `String.ofList`.
-/

namespace SqlDialect.Text

/-! ## Blanks -/

/-- The code points with the property `White_Space`, as closed ranges. -/
def blankRanges : List (Nat × Nat) :=
  [(0x09, 0x0D), (0x20, 0x20), (0x85, 0x85), (0xA0, 0xA0), (0x1680, 0x1680), (0x2000, 0x200A),
   (0x2028, 0x2029), (0x202F, 0x202F), (0x205F, 0x205F), (0x3000, 0x3000)]

def isBlank (c : Char) : Bool :=
  blankRanges.any fun (lo, hi) => lo ≤ c.toNat && c.toNat ≤ hi

/-! ## Trimming -/

def trimEnd (cs : List Char) : List Char :=
  (cs.reverse.dropWhile isBlank).reverse

def trim (cs : List Char) : List Char :=
  trimEnd (cs.dropWhile isBlank)

def trimmed (s : String) : String :=
  String.ofList (trim s.toList)

/-! ## Splitting -/

/-- The pieces of the text between separators, in order, empty ones kept: a
text without a separator is its only piece. -/
def fields (sep : Char → Bool) : List Char → List (List Char)
  | [] => [[]]
  | c :: cs =>
    if sep c then [] :: fields sep cs
    else match fields sep cs with
      | [] => [[c]]
      | piece :: rest => (c :: piece) :: rest

/-- The maximal blank-free runs of the text, in order. -/
def words (cs : List Char) : List (List Char) :=
  (fields isBlank cs).filter fun w => !w.isEmpty

/-- The text up to the first `sep` and the text after it, if there is one. -/
def cutAt (sep : Char) : List Char → Option (List Char × List Char)
  | [] => none
  | c :: cs => if c = sep then some ([], cs) else (cutAt sep cs).map fun (l, r) => (c :: l, r)

/-- The text after the last `sep`, or all of it when there is none. -/
def afterLast (sep : Char) (cs : List Char) : List Char :=
  (cs.reverse.takeWhile (· != sep)).reverse

/-- The words of the text, one space between two of them. -/
def joinWords (cs : List Char) : List Char :=
  [' '].intercalate (words cs)

def singleSpaced (s : String) : String :=
  String.ofList (joinWords s.toList)

end SqlDialect.Text
