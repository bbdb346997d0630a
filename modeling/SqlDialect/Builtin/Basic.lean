import SqlDialect.DataType

/-!
# Builtin functions

What is known of a builtin function: its name, what kind of function it is, the
type of its results when there is one such type, and a remark for readers.
-/

namespace SqlDialect

inductive BuiltinKind where
  | scalar
  | aggregate
  | window
  | table
deriving Repr, DecidableEq

namespace BuiltinKind

def all : List BuiltinKind := [.scalar, .aggregate, .window, .table]

def tag : BuiltinKind → String
  | .scalar => "Scalar"
  | .aggregate => "Aggregate"
  | .window => "Window"
  | .table => "Table"

end BuiltinKind

/-- A builtin function. A function without a `result` type returns the type of
its arguments. -/
structure Builtin where
  name : String
  kind : BuiltinKind
  result : Option DataType
  remark : Option String
deriving Repr, DecidableEq

namespace Builtin

def scalar (name : String) (result : DataType) : Builtin := ⟨name, .scalar, some result, none⟩

/-- A scalar function whose result type depends on its arguments. -/
def scalarAny (name : String) : Builtin := ⟨name, .scalar, none, none⟩

def aggregate (name : String) (result : DataType) : Builtin := ⟨name, .aggregate, some result, none⟩

def aggregateAny (name : String) : Builtin := ⟨name, .aggregate, none, none⟩

def window (name : String) (result : DataType) : Builtin := ⟨name, .window, some result, none⟩

def windowAny (name : String) : Builtin := ⟨name, .window, none, none⟩

def tableAny (name : String) : Builtin := ⟨name, .table, none, none⟩

def describedAs (f : Builtin) (remark : String) : Builtin :=
  { f with remark := some remark }

def signature (f : Builtin) : String :=
  match f.result with
  | some t => f.name ++ "(...) -> " ++ t.spelling
  | none => f.name ++ "(...)"

end Builtin

end SqlDialect
