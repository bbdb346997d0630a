import SqlDialect.Yaml.Block

/-!
# Mappings of YAML

`Yaml.readMapping?` reads a text that holds one document, which is a mapping
from scalars to scalars: a block mapping, one entry on a line, or a flow mapping
between braces. A text without a document, and a document in which nothing is
written, are the empty mapping. Everything else that YAML can say (sequences,
nested mappings, anchors, tags, several documents) is refused.

Each entry takes characters from the text, so the length of the text bounds the
number of entries.
-/

namespace SqlDialect.Yaml

structure Entry where
  key : Scalar
  value : Scalar
deriving Repr, DecidableEq

/-- How far the colon may be from the start of a key that is not marked by
`?`. -/
def keyReach : Nat := 1024

/-- Can the key that starts at `start` have its colon at `colon`? Both are on one
line, and not too far from each other. -/
def reaches (start colon : Cursor) : Bool :=
  colon.line == start.line && colon.column ≤ start.column + keyReach

/-! ## Block mappings -/

def atBlockScalar (p : Cursor) : Bool := p.sees '|' || p.sees '>'

/-- Does something else than a value of the mapping stand at `p`, on a line of
its own? A value is indented by more than the mapping; only a block scalar may
start in the column of the mapping itself. -/
def leavesValue (indent : Nat) (p : Cursor) : Bool :=
  p.column < indent || (p.column == indent && !atBlockScalar p)

/-- The value after a colon that was passed at `here`: nothing, if the next
thing is on a new line and does not belong to the value. -/
def readBlockValue (indent : Nat) (here : Place) : Option Read :=
  let p := here.next
  if p.cursor.atBoundary ||
      (here.cursor.line < p.cursor.line && leavesValue indent p.cursor) then
    some ⟨.absent, p⟩
  else if atBlockScalar p.cursor then readBlock indent p.cursor
  else readInline false (indent + 1) p.cursor

/-- An entry `key: value`; the colon is in reach of the key. -/
def readImplicitEntry (indent : Nat) (p : Cursor) : Option (Entry × Place) :=
  (readInline false 0 p).bind fun key =>
    let colon := key.place.next.cursor
    if reaches p colon && colon.seesWord ':' then
      (readBlockValue indent ⟨colon.skip 1, false⟩).map fun value =>
        (⟨key.scalar, value.scalar⟩, value.place)
    else none

/-- An entry `? key`, with its value after a colon on a line of its own. -/
def readExplicitEntry (indent : Nat) (p : Cursor) : Option (Entry × Place) :=
  (readBlockValue indent ⟨p.skip 1, true⟩).bind fun key =>
    let colon := key.place.next
    if colon.cursor.seesWord ':' && colon.cursor.column == indent && colon.fresh then
      (readBlockValue indent ⟨colon.cursor.skip 1, true⟩).map fun value =>
        (⟨key.scalar, value.scalar⟩, value.place)
    else some (⟨key.scalar, .absent⟩, colon)

/-- The entries of a block mapping that is indented by `indent`, up to the end
of the document. -/
def readBlockEntries (indent : Nat) : (fuel : Nat) → Place → Option (List Entry × Place)
  | 0, _ => none
  | fuel + 1, here =>
    let p := here.next
    if p.cursor.atBoundary then some ([], p)
    else if p.cursor.column != indent || !p.fresh then none
    else
      let entry? :=
        if p.cursor.seesWord '?' then readExplicitEntry indent p.cursor
        else readImplicitEntry indent p.cursor
      entry?.bind fun (entry, after) =>
        (readBlockEntries indent fuel after).map fun (entries, last) => (entry :: entries, last)

/-! ## Flow mappings -/

def atFlowEnd (p : Cursor) : Bool := p.sees ',' || p.sees '\x7d'

/-- The scalar of a flow entry that may be left out, and the place after it. -/
def readFlowScalar (p : Cursor) : Option (Scalar × Cursor) :=
  if p.atBoundary then none
  else if atFlowEnd p then some (.absent, p)
  else (readInline true 0 p).map fun r => (r.scalar, r.place.cursor.nextInFlow)

/-- The value of a flow entry whose key started at `start` and ended before `p`.
The colon is in reach of a key that is not marked by `?`. -/
def readFlowValue (marked : Bool) (start p : Cursor) : Option (Scalar × Cursor) :=
  if p.sees ':' then
    if marked || reaches start p then readFlowScalar (p.skip 1).nextInFlow else none
  else some (.absent, p)

def readFlowEntry (p : Cursor) : Option (Entry × Cursor) :=
  let marked := p.sees '?'
  let start := if marked then (p.skip 1).nextInFlow else p
  (readFlowScalar start).bind fun (key, afterKey) =>
    (readFlowValue marked start afterKey).map fun (value, after) => (⟨key, value⟩, after)

/-- The entries of a flow mapping after its opening brace or a comma, and the
place after the closing brace. -/
def readFlowEntries : (fuel : Nat) → Cursor → Option (List Entry × Cursor)
  | 0, _ => none
  | fuel + 1, here =>
    let p := here.nextInFlow
    if p.atBoundary then none
    else if p.sees '\x7d' then some ([], p.skip 1)
    else if p.sees ',' then none
    else
      (readFlowEntry p).bind fun (entry, after) =>
        if after.sees ',' then
          (readFlowEntries fuel (after.skip 1)).map fun (entries, last) => (entry :: entries, last)
        else if after.sees '\x7d' then some ([entry], after.skip 1)
        else none

/-! ## Documents -/

/-- The mapping of a document that starts here, and the place after it. -/
def readDocument (p : Place) : Option (List Entry × Place) :=
  let fuel := p.cursor.rest.length + 1
  if p.cursor.atBoundary then some ([], p)
  else if p.cursor.sees '\x7b' then
    (readFlowEntries fuel (p.cursor.skip 1)).map fun (entries, after) => (entries, ⟨after, false⟩)
  else if p.fresh then readBlockEntries p.cursor.column fuel p
  else none

/-- Does nothing follow but the ends of documents? -/
def onlyEnds : (fuel : Nat) → Place → Bool
  | 0, _ => false
  | fuel + 1, here =>
    let p := here.next
    if p.cursor.atEnd then true
    else if p.cursor.atEndMarker then onlyEnds fuel ⟨p.cursor.skip 3, false⟩
    else false

def startOf (cs : List Char) : Place := ⟨⟨uniformBreaks cs, 0, 0⟩, true⟩

/-- The mapping of a text that holds one document or none. -/
def readMapping? (s : String) : Option (List Entry) :=
  if s.toList.all isAllowed then
    let p := (startOf s.toList).next
    let body? :=
      if p.cursor.atEnd then some ([], p)
      else if p.cursor.atStartMarker then readDocument (Place.next ⟨p.cursor.skip 3, false⟩)
      else if p.cursor.atEndMarker || (p.cursor.column == 0 && p.cursor.sees '%') then none
      else readDocument p
    body?.bind fun (entries, after) =>
      if onlyEnds (s.toList.length + 1) after then some entries else none
  else none

end SqlDialect.Yaml
