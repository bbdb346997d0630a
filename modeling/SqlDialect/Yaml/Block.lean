import SqlDialect.Yaml.Scalar

/-!
# Block scalars of YAML

A block scalar is a run of indented lines after a header. After `|` the lines
are kept, after `>` they are folded: a line break between two lines that do not
start with a blank stands for a space. What is done with the line breaks at the
end is said in the header: one is kept, or none (`-`), or all (`+`).

The indentation is given in the header, or it is that of the first line that is
not blank, but no less than that of a longer blank line before it.
-/

namespace SqlDialect.Yaml

inductive Chomping where
  | strip
  | clip
  | keep
deriving Repr, DecidableEq

structure BlockHeader where
  folds : Bool
  chomping : Chomping
  indent : Option Nat
deriving Repr, DecidableEq

namespace BlockHeader

def chomping? : Char → Option Chomping
  | '-' => some .strip
  | '+' => some .keep
  | _ => none

def indent? (c : Char) : Option Nat :=
  if Text.isDigit c then some (c.toNat - 0x30) else none

/-- Is there nothing but blanks and a comment up to the end of the line? The
rest after the line, if so. -/
def lineEnd? (cs : List Char) : Option (List Char) :=
  match cs.dropWhile isGap with
  | [] => some []
  | c :: rest =>
    if isBreak c then some rest
    else if c == '#' then some ((rest.dropWhile fun d => !isBreak d).drop 1)
    else none

/-- The indicators after `|` or `>`, in either order, and what is left. -/
def indicators : List Char → Option (Chomping × Option Nat × List Char)
  | [] => some (.clip, none, [])
  | c :: rest =>
    match chomping? c with
    | some chomping =>
      match rest with
      | d :: rest' =>
        match indent? d with
        | some n => if n = 0 then none else some (chomping, some n, rest')
        | none => some (chomping, none, rest)
      | [] => some (chomping, none, [])
    | none =>
      match indent? c with
      | some n =>
        if n = 0 then none
        else match rest with
          | d :: rest' =>
            match chomping? d with
            | some chomping => some (chomping, some n, rest')
            | none => some (.clip, some n, rest)
          | [] => some (.clip, some n, [])
      | none => some (.clip, none, c :: rest)

/-- The header at the front, and what is left after its line. -/
def read : List Char → Option (BlockHeader × List Char)
  | [] => none
  | c :: rest =>
    if c == '|' || c == '>' then
      (indicators rest).bind fun (chomping, indent, left) =>
        (lineEnd? left).map fun left' => (⟨c == '>', chomping, indent⟩, left')
    else none

end BlockHeader

/-! ## Lines -/

def lines : List Char → List (List Char)
  | [] => []
  | c :: rest =>
    if isBreak c then [c] :: lines rest
    else match lines rest with
      | [] => [[c]]
      | l :: ls => (c :: l) :: ls

def indentation (line : List Char) : Nat := (line.takeWhile (· == ' ')).length

/-- The indentation of a block: that of the first line that is not blank, but no
less than that of a blank line before it, nor than `least`. A tab in its place
is an error. -/
def detectIndent (least : Nat) : List (List Char) → Option Nat
  | [] => some least
  | l :: ls =>
    let n := max least (indentation l)
    match l.drop (indentation l) with
    | [] => some n
    | c :: _ => if c == '\t' then none else if isBreak c then detectIndent n ls else some n

/-! ## The body -/

/-- What was read of a block: its text, the last character first, the line break
after it, the line breaks of the blank lines after that, the last one first, and
whether the last line starts with a blank. -/
structure BlockState where
  out : List Char
  lineBreak : List Char
  blankLines : List Char
  leadingGap : Bool
deriving Repr, DecidableEq

namespace BlockState

def start : BlockState := ⟨[], [], [], false⟩

/-- Add a line that is not blank. -/
def addLine (s : BlockState) (folds : Bool) (line : List Char) : BlockState :=
  let gap := (line.take 1).all isGap
  let join :=
    if folds && s.lineBreak == ['\n'] && !s.leadingGap && !gap then
      if s.blankLines.isEmpty then [' '] else []
    else s.lineBreak
  { out := (line.takeWhile fun c => !isBreak c).reverse ++ s.blankLines ++ join ++ s.out
    lineBreak := line.dropWhile fun c => !isBreak c
    blankLines := []
    leadingGap := gap }

def text (s : BlockState) : Chomping → List Char
  | .strip => s.out.reverse
  | .clip => s.out.reverse ++ s.lineBreak
  | .keep => s.out.reverse ++ s.lineBreak ++ s.blankLines.reverse

end BlockState

/-- The lines of a block that is indented by `indent`, how many they are, and
what they say. -/
def readBlockLines (folds : Bool) (indent : Nat) :
    List (List Char) → (count : Nat) → BlockState → Option (BlockState × Nat × List (List Char))
  | [], count, s => some (s, count, [])
  | l :: ls, count, s =>
    let n := min indent (indentation l)
    match l.drop n with
    | [] => some (s, count, [])
    | c :: rest =>
      if n < indent && c == '\t' then none
      else if isBreak c then
        readBlockLines folds indent ls (count + 1) { s with blankLines := c :: s.blankLines }
      else if n < indent then some (s, count, l :: ls)
      else readBlockLines folds indent ls (count + 1) (s.addLine folds (c :: rest))

/-- The block scalar that starts here, in a collection that is indented by
`parent`. -/
def readBlock (parent : Nat) (p : Cursor) : Option Read :=
  (BlockHeader.read p.rest).bind fun (header, body) =>
    let ls := lines body
    let indent? := match header.indent with
      | some n => some (parent + n)
      | none => detectIndent (parent + 1) ls
    indent?.bind fun indent =>
      (readBlockLines header.folds indent ls 0 .start).map fun (s, count, left) =>
        ⟨⟨String.ofList (s.text header.chomping), false⟩,
         ⟨⟨left.flatten, p.line + 1 + count, 0⟩, true⟩⟩

end SqlDialect.Yaml
