import SqlDialect.Mode.Flag

/-!
# SQL modes

A mode is a set of flags kept as a word of 64 bits. Two words are kept: `value`
has exactly the flags that were given, `full` has also the flags that the groups
among them stand for (`expand`). Texts and edits go by `value`, so that nothing
that was not given is ever written; what is in effect (`contains`) goes by
`full`.

Removing a group therefore withdraws exactly the members that no other given
flag brings in, and removing a member does not hide it while a group that
stands for it remains.
-/

namespace SqlDialect

/-- A set of flags: bit `f.index` is set when `f` is in it. -/
abbrev ModeWord := BitVec 64

namespace ModeFlag

def bit (f : ModeFlag) : ModeWord := BitVec.twoPow 64 f.index

end ModeFlag

namespace ModeWord

def has (w : ModeWord) (f : ModeFlag) : Bool := w.getLsbD f.index

/-- The flags of the set, by rising bit. -/
def flags (w : ModeWord) : List ModeFlag := ModeFlag.all.filter (has w)

def insertAll (w : ModeWord) (fs : List ModeFlag) : ModeWord :=
  fs.foldl (fun acc f => acc ||| f.bit) w

/-- The set with the members of all its groups. -/
def expand (w : ModeWord) : ModeWord := insertAll w ((flags w).flatMap ModeFlag.expansion)

end ModeWord

/-- A SQL mode: the flags that were given and the flags that are in effect. -/
structure Mode where
  value : ModeWord
  full : ModeWord
deriving Repr, DecidableEq

namespace Mode

/-- The mode in which the flags of `w` are given. -/
def ofWord (w : ModeWord) : Mode := ⟨w, w.expand⟩

def empty : Mode := ⟨0, 0⟩

def ofFlags (fs : List ModeFlag) : Mode := ofWord (ModeWord.insertAll 0 fs)

def ofFlag (f : ModeFlag) : Mode := ofWord f.bit

def isEmpty (m : Mode) : Bool := m.value == 0

/-- The flags that were given, by rising bit. -/
def flags (m : Mode) : List ModeFlag := m.value.flags

def effectiveFlags (m : Mode) : List ModeFlag := m.full.flags

def contains (m : Mode) (f : ModeFlag) : Bool := m.full.has f

def insert (m : Mode) (f : ModeFlag) : Mode := ofWord (m.value ||| f.bit)

def erase (m : Mode) (f : ModeFlag) : Mode := ofWord (m.value &&& ~~~f.bit)

end Mode

end SqlDialect
