import Mathlib.Data.List.Forall2
import SqlDialect.Proofs.Builtin.Lookup
import SqlDialect.Proofs.Platform.Reply

/-!
# The order of the tables decides nothing

Variables, limits and functions are taken by name or kind, the last entry first, so
the order in which a table lists its entries could decide what a version has. It
does not, because at no id the tables of the library have two values of one name or
kind (`Tables.unambiguous_mysql`, `Tables.unambiguous_mariaDb`).

The argument compares two resolutions, of the tables and of the tables in another
order (`Catalog.Rearranged`), layer by layer. What the two have made so far cannot be
told apart by any lookup (`Capabilities.Alike`); one layer keeps this
(`Alike.apply`), hence all do (`Alike.foldl`). The functions are found by a walk
over the same layers (`Builtin.find?_entries_eq`).
-/

namespace SqlDialect

/-! ## Other orders -/

/-- The same entries, every table in some order of its own. -/
structure Tables.Rearranged (t u : Tables) : Prop where
  reserved : t.reserved.Perm u.reserved
  keywords : t.keywords.Perm u.keywords
  operators : t.operators.Perm u.operators
  types : t.types.Perm u.types
  systemVariables : t.systemVariables.Perm u.systemVariables
  preparable : t.preparable.Perm u.preparable
  limits : t.limits.Perm u.limits
  withdrawn : t.withdrawn.Perm u.withdrawn

/-- The same tables, every one of them in some order of its own. -/
structure Catalog.Rearranged (c d : Catalog) : Prop where
  mysql : c.mysql.Rearranged d.mysql
  mariaDb : c.mariaDb.Rearranged d.mariaDb
  mysqlBuiltins : c.mysqlBuiltins.Perm d.mysqlBuiltins
  mariaDbBuiltins : c.mariaDbBuiltins.Perm d.mariaDbBuiltins

structure Layer.Rearranged (l m : Layer) : Prop where
  tables : l.tables.Rearranged m.tables
  target_eq : l.target = m.target

namespace Layer.Rearranged

variable {l m : Layer}

theorem gives_iff (h : l.Rearranged m) {kind : NameKind} {name : String} :
    l.Gives kind name ↔ m.Gives kind name := by
  unfold Layer.Gives
  rw [h.target_eq]
  cases kind with
  | keyword => exact Timeline.has_iff_of_perm h.tables.keywords
  | reserved => exact Timeline.has_iff_of_perm h.tables.reserved
  | operator => exact Timeline.has_iff_of_perm h.tables.operators
  | systemVariable =>
      exact exists_congr fun v =>
        and_congr_left' (Timeline.has_iff_of_perm h.tables.systemVariables)
  | preparable => exact Timeline.has_iff_of_perm h.tables.preparable

theorem withdraws_iff (h : l.Rearranged m) {kind : NameKind} {name : String} :
    l.Withdraws kind name ↔ m.Withdraws kind name := by
  unfold Layer.Withdraws
  rw [h.target_eq]
  exact Timeline.has_iff_of_perm h.tables.withdrawn

end Layer.Rearranged

/-! ## Tables without ambiguity -/

/-- At no id there are two variables of one name or two limits of one kind. -/
structure Tables.Unambiguous (t : Tables) : Prop where
  systemVariables : t.systemVariables.Unambiguous Variable.name
  limits : t.limits.Unambiguous Prod.fst

theorem Tables.unambiguous_mysql : Catalog.shipped.mysql.Unambiguous where
  systemVariables := Timeline.unambiguous_of_apart (by decide +kernel)
  limits := Timeline.unambiguous_of_apart (by decide +kernel)

theorem Tables.unambiguous_mariaDb : Catalog.shipped.mariaDb.Unambiguous where
  systemVariables := Timeline.unambiguous_of_apart (by decide +kernel)
  limits := Timeline.unambiguous_of_apart (by decide +kernel)

/-! ## Capabilities -/

namespace Capabilities

/-- A layer, read in two orders, keeps what cannot be told apart. -/
theorem Alike.apply {c d : Capabilities} (hcd : c.Alike d) {l m : Layer} (h : l.Rearranged m)
    (hl : l.tables.Unambiguous) : (c.apply l).Alike (d.apply m) where
  names := by
    intro kind name
    rw [mem_names_apply, mem_names_apply, h.gives_iff, h.withdraws_iff, hcd.names]
  types := by
    intro t
    rw [mem_types_apply, mem_types_apply, h.target_eq, Timeline.has_iff_of_perm h.tables.types,
      hcd.types]
  systemVariables := by
    intro name
    have hwithdrawn : ⟨.systemVariable, name⟩ ∈ l.tables.withdrawn.activeAt m.target ↔
        ⟨.systemVariable, name⟩ ∈ m.tables.withdrawn.activeAt m.target := by
      rw [Timeline.mem_activeAt, Timeline.mem_activeAt, Timeline.has_iff_of_perm h.tables.withdrawn]
    rw [variableNamed?_apply, variableNamed?_apply, h.target_eq,
      hl.systemVariables.find?_eq h.tables.systemVariables, hcd.systemVariables]
    simp only [hwithdrawn]
  limits := by
    intro kind
    rw [limit?_apply, limit?_apply, h.target_eq, hl.limits.find?_eq h.tables.limits, hcd.limits]

theorem Alike.foldl {layers layers' : List Layer}
    (h : List.Forall₂ Layer.Rearranged layers layers')
    (hlayers : ∀ l ∈ layers, l.tables.Unambiguous) {c d : Capabilities} (hcd : c.Alike d) :
    (layers.foldl Capabilities.apply c).Alike (layers'.foldl Capabilities.apply d) := by
  induction h generalizing c d with
  | nil => exact hcd
  | @cons l m rest rest' hl _ ih =>
      refine ih (fun l' hl' => hlayers l' (List.mem_cons_of_mem _ hl')) ?_
      exact hcd.apply hl (hlayers l (List.mem_cons_self ..))

theorem resolve_alike {layers layers' : List Layer}
    (h : List.Forall₂ Layer.Rearranged layers layers')
    (hlayers : ∀ l ∈ layers, l.tables.Unambiguous) : (resolve layers).Alike (resolve layers') :=
  ((Alike.refl nothing).foldl h hlayers).separate

end Capabilities

/-! ## Functions -/

namespace Builtin

structure RearrangedLayer (l m : BuiltinLayer) : Prop where
  table : l.table.Perm m.table
  target_eq : l.target = m.target

/-- The entry of a name that is listed last is the same in every order of the
tables. -/
theorem find?_entries_eq {layers layers' : List BuiltinLayer}
    (h : List.Forall₂ RearrangedLayer layers layers')
    (hlayers : ∀ l ∈ layers, l.table.Unambiguous name) (n : String) :
    (entries layers).reverse.find? (·.name == n)
      = (entries layers').reverse.find? (·.name == n) := by
  induction h with
  | nil => rfl
  | @cons l m rest rest' hl _ ih =>
      have hown : l.active.reverse.find? (·.name == n) = m.active.reverse.find? (·.name == n) := by
        rw [BuiltinLayer.active, BuiltinLayer.active, hl.target_eq]
        exact (hlayers l (List.mem_cons_self ..)).find?_eq hl.table m.target n
      have hrest := ih fun l' hl' => hlayers l' (List.mem_cons_of_mem _ hl')
      rw [find?_reverse_entries_cons, find?_reverse_entries_cons, hrest, hown]

/-- The functions of a stack are the same in every order of the tables, in some
order. -/
theorem merge_perm {layers layers' : List BuiltinLayer}
    (h : List.Forall₂ RearrangedLayer layers layers')
    (hlayers : ∀ l ∈ layers, l.table.Unambiguous name) : (merge layers).Perm (merge layers') := by
  have hmerge := gathered_merge layers
  have hmerge' := gathered_merge layers'
  refine (List.perm_ext_iff_of_nodup hmerge.nodup.of_map hmerge'.nodup.of_map).mpr fun f => ?_
  rw [mem_iff_find? hmerge.nodup, mem_iff_find? hmerge'.nodup, hmerge.last, hmerge'.last,
    find?_entries_eq h hlayers]

end Builtin

/-! ## Catalogs -/

namespace Catalog

variable {d : Catalog}

theorem Rearranged.layers (h : shipped.Rearranged d) {f : Family} {target : VersionId}
    {layers : List Layer} (hlayers : shipped.layers f target = .ok layers) :
    ∃ layers', d.layers f target = .ok layers' ∧ List.Forall₂ Layer.Rearranged layers layers'
      ∧ ∀ l ∈ layers, l.tables.Unambiguous := by
  have hunambiguous : ∀ l ∈ layers, l.tables.Unambiguous := by
    intro l hl
    rcases Platform.mem_layers_shipped hlayers hl with htables | htables
    · exact htables ▸ Tables.unambiguous_mysql
    · exact htables ▸ Tables.unambiguous_mariaDb
  cases f with
  | mysql =>
      cases hlayers
      exact ⟨_, rfl, .cons ⟨h.mysql, rfl⟩ .nil, hunambiguous⟩
  | mariaDb =>
      cases hlayers
      exact ⟨_, rfl, .cons ⟨h.mysql, rfl⟩ (.cons ⟨h.mariaDb, rfl⟩ .nil), hunambiguous⟩
  | standard => cases hlayers

theorem Rearranged.builtins (h : shipped.Rearranged d) (f : Family) (target : VersionId) :
    (d.builtins f target).Perm (shipped.builtins f target) := by
  have hunambiguous : ∀ l ∈ shipped.builtinLayers f target, l.table.Unambiguous Builtin.name := by
    intro l hl
    rcases Builtin.mem_builtinLayers_shipped hl with htable | htable
    · exact htable ▸ Builtin.unambiguous_mysql
    · exact htable ▸ Builtin.unambiguous_mariaDb
  refine (Builtin.merge_perm ?_ hunambiguous).symm
  cases f with
  | mysql => exact .cons ⟨h.mysqlBuiltins, rfl⟩ .nil
  | mariaDb => exact .cons ⟨h.mysqlBuiltins, rfl⟩ (.cons ⟨h.mariaDbBuiltins, rfl⟩ .nil)
  | standard => exact .nil

end Catalog

/-! ## Platforms -/

namespace Platform

theorem modeOf_eq_of_alike (f : Family) {c d : Capabilities} (h : c.Alike d) :
    modeOf f c = modeOf f d := by
  rw [modeOf, modeOf, h.systemVariables]

theorem builtin?_eq_of_perm {p q : Platform} (hp : Builtin.Distinct p.builtins)
    (h : p.builtins.Perm q.builtins) (name : String) : p.builtin? name = q.builtin? name := by
  have hq : Builtin.Distinct q.builtins := by
    intro f hf g hg
    exact hp f (h.mem_iff.mpr hf) g (h.mem_iff.mpr hg)
  refine Option.ext fun f => ?_
  rw [builtin?_eq_some_iff hp, builtin?_eq_some_iff hq, h.mem_iff]

theorem build_rearranged {d : Catalog} (hd : Catalog.shipped.Rearranged d) {f : Family}
    (hf : f.isLineage = true) (v : Version) :
    ∃ p q, build Catalog.shipped f v = .ok p ∧ build d f v = .ok q ∧ p.Alike q
      ∧ p.current = q.current := by
  obtain ⟨p, hbuild⟩ := build_shipped hf v
  obtain ⟨layers, m, hlayers, hm, hp⟩ := build_eq_ok hbuild
  obtain ⟨layers', hlayers', hrearranged, hunambiguous⟩ := hd.layers hlayers
  have halike := Capabilities.resolve_alike hrearranged hunambiguous
  have hm' : modeOf f (Capabilities.resolve layers') = .ok m := modeOf_eq_of_alike f halike ▸ hm
  have hbuild' : build d f v
      = .ok ⟨f, v, v, Capabilities.resolve layers', d.builtins f v.id, m⟩ := by
    simp only [build, hlayers', hm']
  subst hp
  refine ⟨_, _, hbuild, hbuild', ⟨rfl, rfl, halike, fun name => ?_, rfl⟩, rfl⟩
  exact builtin?_eq_of_perm (Builtin.distinct_builtins f v.id) (hd.builtins f v.id).symm name

/-! ## The headline theorem -/

/-- **Table order decides nothing.** With every table of the library in any order
of its own, every version of the lineage is built as before: each question has the
same reply. The functions of a version are the same, listed perhaps in another
order. And at no id two entries of a table of one family are there with the same
name of a variable, the same kind of object or the same name of a function and with
different values. -/
theorem table_order_decides_nothing {d : Catalog} (hd : Catalog.shipped.Rearranged d) :
    (∀ (f : Family) (v : Version), f.isLineage = true →
      ∃ p q, build Catalog.shipped f v = .ok p ∧ build d f v = .ok q
        ∧ ∀ question, q.reply question = p.reply question)
    ∧ (∀ f target, (d.builtins f target).Perm (Catalog.shipped.builtins f target))
    ∧ (∀ f own, Catalog.shipped.tables? f = some own → ∀ target,
      (∀ x y, own.systemVariables.Has target x → own.systemVariables.Has target y →
        x.name = y.name → x = y)
      ∧ ∀ kind m n, own.limits.Has target (kind, m) → own.limits.Has target (kind, n) → m = n)
    ∧ ∀ f table, Catalog.shipped.builtins? f = some table → ∀ target x y,
      table.Has target x → table.Has target y → x.name = y.name → x = y := by
  refine ⟨fun f v hf => ?_, hd.builtins, fun f own hown target => ?_, fun f table htable => ?_⟩
  · obtain ⟨p, q, hp, hq, halike, hcurrent⟩ := build_rearranged hd hf v
    exact ⟨p, q, hp, hq, fun question => (halike.reply_of_current_eq hcurrent question).symm⟩
  · have hunambiguous : own.Unambiguous := by
      cases f with
      | mysql => exact Option.some.inj hown ▸ Tables.unambiguous_mysql
      | mariaDb => exact Option.some.inj hown ▸ Tables.unambiguous_mariaDb
      | standard => cases hown
    refine ⟨hunambiguous.systemVariables target, fun kind m n hm hn => ?_⟩
    exact congrArg Prod.snd (hunambiguous.limits target _ _ hm hn rfl)
  · cases f with
    | mysql => exact Option.some.inj htable ▸ Builtin.unambiguous_mysql
    | mariaDb => exact Option.some.inj htable ▸ Builtin.unambiguous_mariaDb
    | standard => cases htable

/-- The tables of the library backwards, where the default mode of MySQL 8.0 is the
first entry of its variable and no longer the last. -/
theorem table_order_decides_nothing_backwards :
    ∃ d : Catalog, Catalog.shipped.Rearranged d
      ∧ d.mysql.systemVariables = Catalog.shipped.mysql.systemVariables.reverse
      ∧ ∃ p q, build Catalog.shipped .mysql ⟨8, some 0, none⟩ = .ok p
        ∧ build d .mysql ⟨8, some 0, none⟩ = .ok q
        ∧ q.reply .defaultMode = p.reply .defaultMode := by
  have hreverse : ∀ t : Tables, t.Rearranged ⟨t.reserved.reverse, t.keywords.reverse,
      t.operators.reverse, t.types.reverse, t.systemVariables.reverse, t.preparable.reverse,
      t.limits.reverse, t.withdrawn.reverse⟩ := by
    intro t
    exact ⟨(List.reverse_perm _).symm, (List.reverse_perm _).symm, (List.reverse_perm _).symm,
      (List.reverse_perm _).symm, (List.reverse_perm _).symm, (List.reverse_perm _).symm,
      (List.reverse_perm _).symm, (List.reverse_perm _).symm⟩
  have hd : Catalog.shipped.Rearranged ⟨_, _, _, _⟩ :=
    ⟨hreverse _, hreverse _, (List.reverse_perm _).symm, (List.reverse_perm _).symm⟩
  obtain ⟨hsame, -⟩ := table_order_decides_nothing hd
  obtain ⟨p, q, hp, hq, hreply⟩ := hsame .mysql ⟨8, some 0, none⟩ rfl
  exact ⟨_, hd, rfl, p, q, hp, hq, hreply .defaultMode⟩

end Platform

end SqlDialect
