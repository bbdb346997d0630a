import SqlDialect.Catalog.Shipped

/-!
# Resolution of layers

`Capabilities.resolve` makes what a version can do out of its layers, applied
one after another. A layer first withdraws names from what the layers before it
gave, then adds its own entries; so a withdrawal never touches an entry of its
own layer or of a later one.

Words, operators, types and statements are sets, kept as lists in which only
membership counts. Variables and limits are kept by name and by kind: a later
entry takes the place of an earlier one. In the end the keywords lose the words
that are reserved.
-/

namespace SqlDialect

/-- What a version can do. -/
structure Capabilities where
  reserved : List String
  keywords : List String
  operators : List String
  types : List DataType
  systemVariables : List Variable
  preparable : List String
  limits : List (ObjectKind × Nat)
deriving Repr, DecidableEq

namespace Capabilities

def nothing : Capabilities := ⟨[], [], [], [], [], [], []⟩

def withdraw (c : Capabilities) (w : Withdrawal) : Capabilities :=
  match w.kind with
  | .keyword => { c with keywords := c.keywords.filter (· != w.name) }
  | .reserved => { c with reserved := c.reserved.filter (· != w.name) }
  | .operator => { c with operators := c.operators.filter (· != w.name) }
  | .systemVariable => { c with systemVariables := c.systemVariables.filter (·.name != w.name) }
  | .preparable => { c with preparable := c.preparable.filter (· != w.name) }

/-- The list with `x` in place of what has the same key. -/
def putBy {α κ : Type} [DecidableEq κ] (key : α → κ) (xs : List α) (x : α) : List α :=
  xs.filter (key · != key x) ++ [x]

def add (c : Capabilities) (l : Layer) : Capabilities where
  reserved := c.reserved ++ l.tables.reserved.activeAt l.target
  keywords := c.keywords ++ l.tables.keywords.activeAt l.target
  operators := c.operators ++ l.tables.operators.activeAt l.target
  types := c.types ++ l.tables.types.activeAt l.target
  systemVariables :=
    (l.tables.systemVariables.activeAt l.target).foldl (putBy Variable.name) c.systemVariables
  preparable := c.preparable ++ l.tables.preparable.activeAt l.target
  limits := (l.tables.limits.activeAt l.target).foldl (putBy Prod.fst) c.limits

/-- Apply a layer: its withdrawals, then its entries. -/
def apply (c : Capabilities) (l : Layer) : Capabilities :=
  ((l.tables.withdrawn.activeAt l.target).foldl withdraw c).add l

/-- The layers one after another, before the keywords lose the reserved words. -/
def stack (layers : List Layer) : Capabilities := layers.foldl apply nothing

def separate (c : Capabilities) : Capabilities :=
  { c with keywords := c.keywords.filter fun w => !c.reserved.contains w }

/-- What a version made of these layers can do. -/
def resolve (layers : List Layer) : Capabilities := (stack layers).separate

def variableNamed? (c : Capabilities) (name : String) : Option Variable :=
  c.systemVariables.find? (·.name == name)

def limit? (c : Capabilities) (kind : ObjectKind) : Option Nat :=
  (c.limits.find? (·.1 == kind)).map (·.2)

end Capabilities

end SqlDialect
