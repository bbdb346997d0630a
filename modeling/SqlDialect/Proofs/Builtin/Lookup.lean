import SqlDialect.Proofs.Builtin.Merge
import SqlDialect.Proofs.Platform.Build
import SqlDialect.Proofs.Timeline.Order

/-!
# The two ways to look a function up

A platform keeps its functions under their names in capital letters and takes the
last one that has the key; the catalog takes the first function whose name is the
given one up to case. The key and the comparison identify the same names
(`Text.sameName_iff`), so the two can differ only in which of several functions
they take.

There are never several: the names in the tables are in capital letters, and in a
stack of layers every name stands once, so no two functions of a version have
names that differ in case only (`Builtin.distinct_builtins`). What a search finds
can then be said without its direction (`Builtin.Distinct.find?_eq_some_iff`).
-/

namespace SqlDialect

namespace Builtin

/-! ## Names up to case -/

/-- No two of the functions have names that differ in case only. -/
def Distinct (fs : List Builtin) : Prop :=
  ∀ f ∈ fs, ∀ g ∈ fs, Text.sameName f.name g.name = true → f = g

theorem Distinct.reverse {fs : List Builtin} (h : Distinct fs) : Distinct fs.reverse :=
  fun f hf g hg => h f (List.mem_reverse.mp hf) g (List.mem_reverse.mp hg)

theorem Distinct.find?_eq_some_iff {fs : List Builtin} (h : Distinct fs) {name : String}
    {g : Builtin} :
    fs.find? (Text.sameName ·.name name) = some g ↔ g ∈ fs ∧ Text.sameName g.name name = true := by
  constructor
  · intro hfind
    have hname := List.find?_some hfind
    exact ⟨List.mem_of_find?_eq_some hfind, hname⟩
  · rintro ⟨hg, hname⟩
    cases hfind : fs.find? (Text.sameName ·.name name) with
    | none => exact absurd hname (List.find?_eq_none.mp hfind g hg)
    | some f =>
        have hf : Text.sameName f.name name = true := by simpa using List.find?_some hfind
        have hsame : Text.sameName f.name g.name = true := by
          rw [Text.sameName_iff] at hf hname ⊢
          exact hf.trans hname.symm
        rw [h f (List.mem_of_find?_eq_some hfind) g hg hsame]

/-! ## The functions of the library -/

theorem unambiguous_mysql : Catalog.shipped.mysqlBuiltins.Unambiguous name :=
  Timeline.unambiguous_of_nodup nodup_mysql

theorem unambiguous_mariaDb : Catalog.shipped.mariaDbBuiltins.Unambiguous name :=
  Timeline.unambiguous_of_nodup nodup_mariaDb

/-- A function of MariaDB is one of its own, or one that it inherits and has none of
its own for. -/
theorem mem_builtins_mariaDb {target base : VersionId}
    (hbase : Family.mariaDb.baseline? target = some base) {f : Builtin} :
    f ∈ Catalog.shipped.builtins .mariaDb target ↔
      Catalog.shipped.mariaDbBuiltins.Has target f
      ∨ Catalog.shipped.mysqlBuiltins.Has base f
        ∧ ∀ g, Catalog.shipped.mariaDbBuiltins.Has target g → g.name ≠ f.name := by
  have hmerge := gathered_merge (Catalog.shipped.builtinLayers .mariaDb target)
  have hlayers : Catalog.shipped.builtinLayers .mariaDb target
      = [⟨Catalog.shipped.mysqlBuiltins, base⟩, ⟨Catalog.shipped.mariaDbBuiltins, target⟩] := by
    rw [Catalog.builtinLayers, hbase]
    rfl
  have hnone : (Catalog.shipped.mariaDbBuiltins.activeAt target).reverse.find? (·.name == f.name)
      = none ↔ ∀ g, Catalog.shipped.mariaDbBuiltins.Has target g → g.name ≠ f.name := by
    simp only [Timeline.find?_reverse_activeAt_eq_none, beq_iff_eq, ne_eq]
  rw [Catalog.builtins, mem_iff_find? hmerge.nodup, hmerge.last, hlayers,
    find?_reverse_entries_cons, find?_reverse_entries_cons, Option.or_eq_some_iff]
  simp only [BuiltinLayer.active, entries, List.flatMap_nil, List.reverse_nil, List.find?_nil,
    Option.none_or, hnone, unambiguous_mysql.find?_eq_some_iff,
    unambiguous_mariaDb.find?_eq_some_iff, and_true]
  rw [and_comm]

/-- The functions of the library have their names in capital letters. -/
theorem upper_name_entry {e : Dated Builtin}
    (he : e ∈ Catalog.shipped.mysqlBuiltins ++ Catalog.shipped.mariaDbBuiltins) :
    Text.upper e.value.name = e.value.name := by
  have hall : ((Catalog.shipped.mysqlBuiltins ++ Catalog.shipped.mariaDbBuiltins).all
      fun e => (Text.bytes e.value.name).all (ModeFlag.isNameCode ·.toNat)) = true := by
    decide +kernel
  exact ModeFlag.upper_of_nameChars
    (ModeFlag.nameChar_of_bytes (List.all_eq_true.mp hall e he))

theorem mem_builtinLayers_shipped {f : Family} {target : VersionId} {l : BuiltinLayer}
    (hl : l ∈ Catalog.shipped.builtinLayers f target) :
    l.table = Catalog.shipped.mysqlBuiltins ∨ l.table = Catalog.shipped.mariaDbBuiltins := by
  cases f with
  | mysql =>
      obtain rfl := List.mem_singleton.mp hl
      exact Or.inl rfl
  | mariaDb =>
      rcases List.mem_cons.mp hl with rfl | hl
      · exact Or.inl rfl
      · obtain rfl := List.mem_singleton.mp hl
        exact Or.inr rfl
  | standard => cases hl

theorem upper_name_builtin {f : Family} {target : VersionId} {g : Builtin}
    (hg : g ∈ Catalog.shipped.builtins f target) : Text.upper g.name = g.name := by
  have hname : g.name ∈ (entries (Catalog.shipped.builtinLayers f target)).map name :=
    (gathered_merge _).mem_names.mp (List.mem_map_of_mem hg)
  obtain ⟨l, hl, -, ⟨e, he, -, rfl⟩, hsame⟩ := mem_names_entries.mp hname
  rw [← hsame]
  rcases mem_builtinLayers_shipped hl with htable | htable
  · exact upper_name_entry (List.mem_append_left _ (htable ▸ he))
  · exact upper_name_entry (List.mem_append_right _ (htable ▸ he))

theorem distinct_builtins (f : Family) (target : VersionId) :
    Distinct (Catalog.shipped.builtins f target) := by
  intro g hg g' hg' hsame
  have hnodup := (gathered_merge (Catalog.shipped.builtinLayers f target)).nodup
  have hname : g.name = g'.name := by
    rw [Text.sameName_iff, upper_name_builtin hg, upper_name_builtin hg'] at hsame
    exact hsame
  have hfind := (mem_iff_find? hnodup).mp hg
  rw [hname, (mem_iff_find? hnodup).mp hg'] at hfind
  exact (Option.some.inj hfind).symm

end Builtin

namespace Platform

/-- Looking a key up is searching from the end for a name up to case. -/
theorem builtin?_eq_find? (p : Platform) (name : String) :
    p.builtin? name = p.builtins.reverse.find? (Text.sameName ·.name (Text.trimmed name)) := by
  have hkey : (fun f : Builtin => Text.upper f.name == wordKey name)
      = fun f => Text.sameName f.name (Text.trimmed name) := by
    funext f
    rw [Bool.eq_iff_iff, beq_iff_eq, wordKey, Text.sameName_iff]
  rw [builtin?, hkey]

theorem builtin?_eq_some_iff {p : Platform} (h : Builtin.Distinct p.builtins) {name : String}
    {g : Builtin} :
    p.builtin? name = some g ↔
      g ∈ p.builtins ∧ Text.sameName g.name (Text.trimmed name) = true := by
  rw [builtin?_eq_find?, h.reverse.find?_eq_some_iff, List.mem_reverse]

theorem build_builtins {catalog : Catalog} {f : Family} {v : Version} {p : Platform}
    (h : build catalog f v = .ok p) : p.builtins = catalog.builtins p.family p.id := by
  obtain ⟨layers, m, -, -, rfl⟩ := build_eq_ok h
  rfl

/-! ## The headline theorem -/

/-- **Either lookup.** Every version of the lineage has a platform, and for every
spelling of a name its lookup gives what the catalog gives for the trimmed name:
the one function of the version with that name up to case, if there is one. -/
theorem builtin_lookups_agree {f : Family} (hf : f.isLineage = true) (v : Version) :
    ∃ p, build Catalog.shipped f v = .ok p
      ∧ ∀ name, p.builtin? name = Catalog.shipped.builtin? p.family p.id (Text.trimmed name)
        ∧ ∀ g, p.builtin? name = some g ↔
          g ∈ Catalog.shipped.builtins p.family p.id
          ∧ Text.sameName g.name (Text.trimmed name) = true := by
  obtain ⟨p, hbuild⟩ := build_shipped hf v
  have hdistinct := Builtin.distinct_builtins p.family p.id
  have hplatform : ∀ name g, p.builtin? name = some g ↔
      g ∈ Catalog.shipped.builtins p.family p.id
      ∧ Text.sameName g.name (Text.trimmed name) = true := by
    intro name g
    rw [← build_builtins hbuild] at hdistinct ⊢
    exact builtin?_eq_some_iff hdistinct
  refine ⟨p, hbuild, fun name => ⟨Option.ext fun g => ?_, hplatform name⟩⟩
  rw [hplatform name g]
  exact hdistinct.find?_eq_some_iff.symm

/-- Blanks that are not ASCII are trimmed, and case does not matter: both lookups
find `ROW_NUMBER` in MySQL 8.0. -/
theorem builtin_lookups_agree_row_number :
    Family.isLineage .mysql = true
      ∧ ∃ p, build Catalog.shipped .mysql ⟨8, some 0, none⟩ = .ok p
        ∧ p.builtin? " row_Number\u00A0" = Catalog.shipped.builtin? p.family p.id "row_Number"
        ∧ p.builtin? " row_Number\u00A0"
          = some (.describedAs (.window "ROW_NUMBER" .bigInt) "Row number within partition") := by
  obtain ⟨p, hbuild, hlookup⟩ :=
    builtin_lookups_agree (show Family.isLineage .mysql = true from rfl) ⟨8, some 0, none⟩
  obtain ⟨hagree, hfound⟩ := hlookup " row_Number\u00A0"
  obtain ⟨hfamily, hversion, -, -⟩ := build_ok hbuild
  have hid : p.id = 80099 := by rw [id, hversion]; decide
  have htrimmed : Text.trimmed " row_Number\u00A0" = "row_Number" := by decide +kernel
  refine ⟨rfl, p, hbuild, htrimmed ▸ hagree, (hfound _).mpr ⟨?_, by decide +kernel⟩⟩
  rw [hfamily, hid, Builtin.builtins_mysql, Timeline.mem_activeAt]
  exact ⟨.since (.describedAs (.window "ROW_NUMBER" .bigInt) "Row number within partition") 80002,
    by decide +kernel, Dated.activeAt_iff.mp (by decide), rfl⟩

end Platform

end SqlDialect
