import SqlDialect.Platform.Comment

/-!
# Questions about a platform

Everything that can be asked of a platform, as data (`Query`), and what it says
in reply (`Platform.reply`). Asking changes nothing.
-/

namespace SqlDialect

inductive Query where
  | family
  | version
  | id
  | current
  | display
  | supportedSeries
  | defaultSeries
  | isLineage
  | defaultMode
  | presetFlags
  | naming
  | reservedWords
  | nonReservedWords
  | isReserved (word : String)
  | isKeyword (word : String)
  | hasOperator (operator : String)
  | isPreparable (statement : String)
  | hasType (t : DataType)
  | builtinNamed (name : String)
  | hasBuiltin (name : String)
  | variableNamed (name : String)
  | maxLength (kind : ObjectKind)
  | satisfies (family : Option String) (least greatest : Option VersionId)
  | runsComment (tag : String)
deriving Repr, DecidableEq

inductive Reply where
  | family (f : Family)
  | version (v : Version)
  | id (n : VersionId)
  | text (s : String)
  | texts (ss : List String)
  | truth (b : Bool)
  | mode (m : Mode)
  | flags (fs : List ModeFlag)
  | naming (n : Naming)
  | builtin (f : Option Builtin)
  | systemVariable (v : Option Variable)
  | length (n : Option Nat)
deriving Repr, DecidableEq

def Platform.reply (p : Platform) : Query → Reply
  | .family => .family p.family
  | .version => .version p.version
  | .id => .id p.id
  | .current => .version p.current
  | .display => .text p.display
  | .supportedSeries => .texts p.family.supportedSeries
  | .defaultSeries => .text p.family.defaultSeries
  | .isLineage => .truth p.family.isLineage
  | .defaultMode => .mode p.defaultMode
  | .presetFlags => .flags p.presetFlags
  | .naming => .naming p.naming
  | .reservedWords => .texts p.reservedWords
  | .nonReservedWords => .texts p.nonReservedWords
  | .isReserved word => .truth (p.isReserved word)
  | .isKeyword word => .truth (p.isKeyword word)
  | .hasOperator operator => .truth (p.hasOperator operator)
  | .isPreparable statement => .truth (p.isPreparable statement)
  | .hasType t => .truth (p.hasType t)
  | .builtinNamed name => .builtin (p.builtin? name)
  | .hasBuiltin name => .truth (p.hasBuiltin name)
  | .variableNamed name => .systemVariable (p.variableNamed? name)
  | .maxLength kind => .length (p.maxLength? kind)
  | .satisfies family least greatest => .truth (p.satisfies family least greatest)
  | .runsComment tag => .truth (p.runsComment tag)

end SqlDialect
