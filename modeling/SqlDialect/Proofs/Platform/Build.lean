import SqlDialect.Platform.Basic
import SqlDialect.Proofs.Mode.Names
import SqlDialect.Proofs.Platform.Resolution
import SqlDialect.Proofs.Timeline.Succession

/-!
# What a platform is built of

`Platform.build` keeps the family and the version that it was given, and it has
nothing to build outside the lineage. All else that it makes depends on the id
of the version alone (`Platform.build_eq_map`).

With the catalog that comes with the library it never fails in the lineage
(`Platform.build_shipped`): the default of the mode variable, in whatever layer
it is found, is the written list of a documented preset.
-/

namespace SqlDialect

theorem Family.isLineage_iff {f : Family} :
    f.isLineage = true ↔ f = .mysql ∨ f = .mariaDb := by
  cases f <;> simp [Family.isLineage]

namespace Platform

/-- All that a platform is made of. -/
theorem build_eq_ok {catalog : Catalog} {f : Family} {v : Version} {p : Platform}
    (h : build catalog f v = .ok p) :
    ∃ layers m, catalog.layers f v.id = .ok layers
      ∧ modeOf f (Capabilities.resolve layers) = .ok m
      ∧ p = ⟨f, v, v, Capabilities.resolve layers, catalog.builtins f v.id, m⟩ := by
  unfold build at h
  split at h
  · cases h
  · rename_i layers hlayers
    simp only at h
    split at h
    · cases h
    · rename_i m hm
      cases h
      exact ⟨layers, m, hlayers, hm, rfl⟩

theorem build_ok {catalog : Catalog} {f : Family} {v : Version} {p : Platform}
    (h : build catalog f v = .ok p) :
    p.family = f ∧ p.version = v ∧ p.current = v ∧ f.isLineage = true := by
  obtain ⟨layers, m, hlayers, -, rfl⟩ := build_eq_ok h
  have hlineage : f.isLineage = true := by
    cases f with
    | mysql => rfl
    | mariaDb => rfl
    | standard => cases hlayers
  exact ⟨rfl, rfl, rfl, hlineage⟩

/-- Outside the lineage there are no tables to build from. -/
theorem build_of_no_tables {catalog : Catalog} {f : Family} (hf : f.isLineage = false)
    (v : Version) : build catalog f v = .error (.noTables f) := by
  cases f with
  | mysql => cases hf
  | mariaDb => cases hf
  | standard => rfl

theorem build_capabilities {catalog : Catalog} {f : Family} {v : Version} {p : Platform}
    (h : build catalog f v = .ok p) :
    ∃ layers, catalog.layers f v.id = .ok layers ∧ p.capabilities = Capabilities.resolve layers := by
  obtain ⟨layers, m, hlayers, -, rfl⟩ := build_eq_ok h
  exact ⟨layers, hlayers, rfl⟩

/-- Versions with one id differ as platforms in nothing but the version. -/
theorem build_eq_map {catalog : Catalog} {f : Family} {v w : Version} (hid : v.id = w.id) :
    build catalog f w =
      (build catalog f v).map fun p => { p with version := w, current := w } := by
  unfold build
  rw [hid]
  split
  · rfl
  · simp only
    split
    · rfl
    · rfl

theorem build_of_id_eq {catalog : Catalog} {f : Family} {v w : Version} {p : Platform}
    (h : build catalog f v = .ok p) (hid : v.id = w.id) :
    build catalog f w = .ok { p with version := w, current := w } := by
  rw [build_eq_map hid, h]
  rfl

theorem flagsFor_congr {f : Family} {v w : Version} (hseries : v.series = w.series)
    (hid : v.id = w.id) : ModePreset.flagsFor f v = ModePreset.flagsFor f w := by
  rw [ModePreset.flagsFor, ModePreset.flagsFor, hseries, hid]

/-! ## The catalog of the library -/

/-- In the tables of the library the default mode is the written list of a preset,
and the family knows its flags for as long as it is the default. -/
theorem modeDefault_written {f : Family} {own : Tables} (hown : Catalog.shipped.tables? f = some own)
    {timeline : Timeline ModeFlag} (htimeline : f.modeTimeline? = some timeline) {e : Dated Variable}
    (he : e ∈ own.systemVariables) (hname : e.value.name = modeVariable) :
    ∃ fs : List ModeFlag, e.value.default = ",".intercalate (fs.map ModeFlag.name)
      ∧ ∀ flag ∈ fs, ∃ d ∈ timeline, d.value = flag ∧ d.Covers e := by
  have hall : (own.systemVariables.all fun e =>
      e.value.name != modeVariable || ModePreset.all.any fun preset =>
        e.value.default == ",".intercalate (preset.flags.map ModeFlag.name)
          && preset.flags.all fun flag => timeline.any fun d => d.value == flag && d.Covers e)
      = true := by
    cases f with
    | mysql =>
        cases hown
        cases htimeline
        decide +kernel
    | mariaDb =>
        cases hown
        cases htimeline
        decide +kernel
    | standard => cases hown
  have hpreset := List.all_eq_true.mp hall e he
  simp only [hname, bne_self_eq_false, Bool.false_or, List.any_eq_true, List.all_eq_true,
    Bool.and_eq_true, beq_iff_eq, decide_eq_true_eq] at hpreset
  obtain ⟨preset, -, hwritten, hknown⟩ := hpreset
  exact ⟨preset.flags, hwritten, hknown⟩

theorem mem_layers_shipped {f : Family} {target : VersionId} {layers : List Layer} {l : Layer}
    (h : Catalog.shipped.layers f target = .ok layers) (hl : l ∈ layers) :
    l.tables = Catalog.shipped.mysql ∨ l.tables = Catalog.shipped.mariaDb := by
  cases f with
  | mysql =>
      cases h
      simp only [List.mem_singleton] at hl
      exact Or.inl (by rw [hl])
  | mariaDb =>
      cases h
      simp only [List.mem_cons, List.not_mem_nil, or_false] at hl
      rcases hl with rfl | rfl
      · exact Or.inl rfl
      · exact Or.inr rfl
  | standard => cases h

/-- The library has a default mode for every version of the lineage. -/
theorem modeOf_shipped {f : Family} {target : VersionId} {layers : List Layer}
    (h : Catalog.shipped.layers f target = .ok layers) :
    ∃ m, modeOf f (Capabilities.resolve layers) = .ok m := by
  unfold modeOf
  split
  · split
    · rename_i v hv
      obtain ⟨before, l, after, rfl, hlast, -⟩ := Capabilities.variableNamed?_stack.mp hv
      obtain ⟨front, e, back, htable, -, rfl, hname, -⟩ := hlast
      have hmem : e ∈ l.tables.systemVariables := htable ▸ by simp
      have hdefault : ∃ fs : List ModeFlag,
          e.value.default = ",".intercalate (fs.map ModeFlag.name) := by
        rcases mem_layers_shipped h (l := l) (by simp) with htables | htables
        · obtain ⟨fs, hfs, -⟩ := modeDefault_written (f := .mysql) rfl rfl (htables ▸ hmem) hname
          exact ⟨fs, hfs⟩
        · obtain ⟨fs, hfs, -⟩ := modeDefault_written (f := .mariaDb) rfl rfl (htables ▸ hmem) hname
          exact ⟨fs, hfs⟩
      obtain ⟨fs, hwritten⟩ := hdefault
      exact ⟨Mode.ofFlags fs, by rw [hwritten]; exact Mode.parseWith_names none fs⟩
    · exact ⟨.empty, rfl⟩
  · exact ⟨_, rfl⟩

theorem build_shipped {f : Family} (hf : f.isLineage = true) (v : Version) :
    ∃ p, build Catalog.shipped f v = .ok p := by
  have hlayers : ∃ layers, Catalog.shipped.layers f v.id = .ok layers := by
    cases f with
    | mysql => exact ⟨_, rfl⟩
    | mariaDb => exact ⟨_, rfl⟩
    | standard => cases hf
  obtain ⟨layers, hl⟩ := hlayers
  obtain ⟨m, hm⟩ := modeOf_shipped hl
  simp only [build, hl, hm]
  exact ⟨_, rfl⟩

end Platform

end SqlDialect
