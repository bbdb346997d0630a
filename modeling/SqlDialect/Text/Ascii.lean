/-!
# Letters and digits of ASCII

Names of the dialect are compared without regard to the case of the letters
`A`-`Z`; every other character stands for itself. `sameName` is that
comparison, `upper` and `lower` give the two normal forms.

Numbers are written in the digits `0`-`9`; `decimal?` reads them and refuses
everything else, the empty text included.
-/

namespace SqlDialect.Text

/-! ## Case -/

def isUpperLetter (c : Char) : Bool := 0x41 ≤ c.toNat && c.toNat ≤ 0x5A

def isLowerLetter (c : Char) : Bool := 0x61 ≤ c.toNat && c.toNat ≤ 0x7A

def upperChar (c : Char) : Char :=
  if isLowerLetter c then Char.ofNat (c.toNat - 0x20) else c

def lowerChar (c : Char) : Char :=
  if isUpperLetter c then Char.ofNat (c.toNat + 0x20) else c

def upper (s : String) : String := String.ofList (s.toList.map upperChar)

def lower (s : String) : String := String.ofList (s.toList.map lowerChar)

/-- Equality up to the case of `A`-`Z`. -/
def sameName (s t : String) : Bool :=
  s.toList.map lowerChar == t.toList.map lowerChar

/-! ## Digits -/

def isDigit (c : Char) : Bool := 0x30 ≤ c.toNat && c.toNat ≤ 0x39

/-- The number that the digits `cs` write in base ten. -/
def decimalValue (cs : List Char) : Nat :=
  cs.foldl (fun n c => n * 10 + (c.toNat - 0x30)) 0

/-- The number written by a non-empty run of digits. -/
def decimal? (cs : List Char) : Option Nat :=
  if !cs.isEmpty && cs.all isDigit then some (decimalValue cs) else none

/-- Numbers are kept in 32 bits: everything below this bound. -/
def numberBound : Nat := 0x100000000

/-- The number written by a non-empty run of digits, if it is below
`numberBound`. -/
def number? (cs : List Char) : Option Nat :=
  (decimal? cs).filter (· < numberBound)

end SqlDialect.Text
