import SqlDialect.Platform.Query
import SqlDialect.Proofs.Platform.Words

/-!
# What the replies of a platform depend on

A platform keeps lists, but no question asks for their order, and none for an entry
that is hidden by another. `Capabilities.Alike` and `Platform.Alike` say what is
asked for: two platforms that are alike give the same reply to every question
(`Alike.reply`), apart from the two that show the current version, which belongs to
the platform and not to its version (`Query.showsCurrent`).
-/

namespace SqlDialect

namespace Capabilities

/-- No lookup tells `c` and `d` apart. -/
structure Alike (c d : Capabilities) : Prop where
  names : ∀ kind name, name ∈ c.names kind ↔ name ∈ d.names kind
  types : ∀ t, t ∈ c.types ↔ t ∈ d.types
  systemVariables : ∀ name, c.variableNamed? name = d.variableNamed? name
  limits : ∀ kind, c.limit? kind = d.limit? kind

theorem Alike.refl (c : Capabilities) : c.Alike c :=
  ⟨fun _ _ => Iff.rfl, fun _ => Iff.rfl, fun _ => rfl, fun _ => rfl⟩

theorem Alike.separate {c d : Capabilities} (hcd : c.Alike d) : c.separate.Alike d.separate where
  names := by
    intro kind name
    have hkept := hcd.names kind name
    cases kind with
    | keyword =>
        have hreserved : name ∈ c.reserved ↔ name ∈ d.reserved := hcd.names .reserved name
        have hkeywords : name ∈ c.keywords ↔ name ∈ d.keywords := hkept
        simp [Capabilities.names, Capabilities.separate, hreserved, hkeywords]
    | reserved => exact hkept
    | operator => exact hkept
    | systemVariable => exact hkept
    | preparable => exact hkept
  types := hcd.types
  systemVariables := hcd.systemVariables
  limits := hcd.limits

end Capabilities

def Query.showsCurrent : Query → Bool
  | .current | .display => true
  | _ => false

namespace Platform

/-- No lookup tells `p` and `q` apart; their current versions may differ. -/
structure Alike (p q : Platform) : Prop where
  family : p.family = q.family
  version : p.version = q.version
  capabilities : p.capabilities.Alike q.capabilities
  builtins : ∀ name, p.builtin? name = q.builtin? name
  defaultMode : p.defaultMode = q.defaultMode

variable {p q : Platform}

theorem Alike.contains (h : p.Alike q) (kind : NameKind) (name : String) :
    (p.capabilities.names kind).contains name = (q.capabilities.names kind).contains name := by
  rw [Bool.eq_iff_iff, List.contains_iff_mem, List.contains_iff_mem, h.capabilities.names]

theorem Alike.hasType (h : p.Alike q) (t : DataType) : p.hasType t = q.hasType t := by
  rw [Platform.hasType, Platform.hasType, Bool.eq_iff_iff, List.contains_iff_mem,
    List.contains_iff_mem, h.capabilities.types]

theorem Alike.id (h : p.Alike q) : p.id = q.id := congrArg Version.id h.version

theorem Alike.satisfies (h : p.Alike q) (family : Option String)
    (least greatest : Option VersionId) :
    p.satisfies family least greatest = q.satisfies family least greatest := by
  unfold Platform.satisfies
  rw [h.family, h.id]

theorem Alike.runsComment (h : p.Alike q) (tag : String) :
    p.runsComment tag = q.runsComment tag := by
  unfold Platform.runsComment
  rw [h.family, h.id]

/-- Platforms that are alike give the same reply to every question that does not
show the current version. -/
theorem Alike.reply (h : p.Alike q) {question : Query} (hshown : question.showsCurrent = false) :
    p.reply question = q.reply question := by
  cases question with
  | current => cases hshown
  | display => cases hshown
  | family => exact congrArg Reply.family h.family
  | version => exact congrArg Reply.version h.version
  | id => exact congrArg Reply.id h.id
  | supportedSeries => exact congrArg (fun f : Family => Reply.texts f.supportedSeries) h.family
  | defaultSeries => exact congrArg (fun f : Family => Reply.text f.defaultSeries) h.family
  | isLineage => exact congrArg (fun f : Family => Reply.truth f.isLineage) h.family
  | naming => exact congrArg (fun f : Family => Reply.naming f.naming) h.family
  | defaultMode => exact congrArg Reply.mode h.defaultMode
  | presetFlags =>
      exact congrArg Reply.flags (congrArg₂ ModePreset.flagsFor h.family h.version)
  | reservedWords =>
      exact congrArg Reply.texts (sortWords_eq_of_mem_iff (h.capabilities.names .reserved))
  | nonReservedWords =>
      exact congrArg Reply.texts (sortWords_eq_of_mem_iff (h.capabilities.names .keyword))
  | isReserved word => exact congrArg Reply.truth (h.contains .reserved _)
  | isKeyword word =>
      exact congrArg Reply.truth (congrArg₂ or (h.contains .reserved _) (h.contains .keyword _))
  | hasOperator operator => exact congrArg Reply.truth (h.contains .operator _)
  | isPreparable statement => exact congrArg Reply.truth (h.contains .preparable _)
  | hasType t => exact congrArg Reply.truth (h.hasType t)
  | builtinNamed name => exact congrArg Reply.builtin (h.builtins name)
  | hasBuiltin name => exact congrArg Reply.truth (congrArg Option.isSome (h.builtins name))
  | variableNamed name => exact congrArg Reply.systemVariable (h.capabilities.systemVariables _)
  | maxLength kind => exact congrArg Reply.length (h.capabilities.limits kind)
  | satisfies family least greatest =>
      exact congrArg Reply.truth (h.satisfies family least greatest)
  | runsComment tag => exact congrArg Reply.truth (h.runsComment tag)

theorem Alike.reply_of_current_eq (h : p.Alike q) (hcurrent : p.current = q.current)
    (question : Query) : p.reply question = q.reply question := by
  cases hshown : question.showsCurrent with
  | false => exact h.reply hshown
  | true =>
      cases question with
      | current => exact congrArg Reply.version hcurrent
      | display =>
          rw [Platform.reply, Platform.reply, display, display, h.family, hcurrent]
      | _ => cases hshown

/-- The current version is not asked for by any other question. -/
theorem alike_setCurrent (p : Platform) (v : Version) : (p.setCurrent v).Alike p :=
  ⟨rfl, rfl, .refl _, fun _ => rfl, rfl⟩

end Platform

end SqlDialect
