/-!
# Quoted text

Text between two quotes, in which some characters are written twice. Names
double their quote; string literals double the apostrophe and, where the
backslash escapes, the backslash.
-/

namespace SqlDialect.Text

def apostrophe : Char := '\x27'

def backslash : Char := '\x5c'

def doubled (twice : List Char) (cs : List Char) : List Char :=
  cs.flatMap fun c => if twice.contains c then [c, c] else [c]

/-- The text between quotes, the characters of `twice` doubled. -/
def enclosed (quote : Char) (twice : List Char) (cs : List Char) : List Char :=
  quote :: doubled twice cs ++ [quote]

end SqlDialect.Text
