/-!
# JSON values

JSON as it is written: numbers keep their digits, objects keep the order and the
repetitions of their members. A string literal whose escapes leave half of a
surrogate pair without the other half is correct JSON, but it names no text;
its content is `none`.
-/

namespace SqlDialect

inductive Json where
  | null
  | bool (b : Bool)
  | number (literal : List Char)
  | string (content : Option String)
  | array (items : List Json)
  | object (members : List (Option String × Json))
deriving Repr

end SqlDialect
