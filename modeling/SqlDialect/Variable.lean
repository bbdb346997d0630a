/-!
# System variables

A `Variable` describes a server variable over a span of versions: its type,
where it can be set, whether it can be set at run time, and the default with
which the server is built.
-/

namespace SqlDialect

inductive VariableType where
  | bool | int | unsignedInt | float | string | enum | set | charset | collation
deriving Repr, DecidableEq

inductive VariableScope where
  | global
  | session
  | both
deriving Repr, DecidableEq

namespace VariableScope

def hasGlobal : VariableScope → Bool
  | .global | .both => true
  | .session => false

def hasSession : VariableScope → Bool
  | .session | .both => true
  | .global => false

end VariableScope

structure Variable where
  name : String
  type : VariableType
  scope : VariableScope
  dynamic : Bool
  default : String
deriving Repr, DecidableEq

namespace Variable

def settable (name : String) (type : VariableType) (scope : VariableScope)
    (default : String) : Variable :=
  ⟨name, type, scope, true, default⟩

def readOnly (v : Variable) : Variable := { v with dynamic := false }

end Variable

end SqlDialect
