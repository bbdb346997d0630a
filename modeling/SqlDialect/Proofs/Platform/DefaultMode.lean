import SqlDialect.Proofs.Platform.Build

/-!
# Default modes

The default mode of a version is the default of its mode variable. Four spans of
ids in the tables of MySQL and three in those of MariaDB say what that default is;
two other tables say which flags a version knows. Neither refers to the other, so
that they fit together is a fact about spans.

- Each family has, in its own layer, a mode variable at every id that the tables
  reach (`gives_modeVariable`): the first span starts at the first id, and where
  one ends the next one begins. So the default never comes from an inherited
  layer.
- For as long as a default is in force, its flags are known
  (`modeDefault_written`).
-/

namespace SqlDialect

namespace Mode

theorem unsupportedIn_eq_nil {m : Mode} {f : Family} {target : VersionId}
    {timeline : Timeline ModeFlag} (htimeline : f.modeTimeline? = some timeline)
    (h : ∀ flag ∈ m.flags, timeline.Has target flag) : m.unsupportedIn f target = [] := by
  rw [unsupportedIn, htimeline]
  refine List.filter_eq_nil_iff.mpr fun flag hflag => ?_
  have hactive : flag ∈ timeline.activeAt target := Timeline.mem_activeAt.mpr (h flag hflag)
  simp [hactive]

theorem mem_flags_ofFlags {fs : List ModeFlag} {flag : ModeFlag} :
    flag ∈ (ofFlags fs).flags ↔ flag ∈ fs := by
  simp [ofFlags, ofWord, flags]

end Mode

namespace Platform

/-! ## The layer of the family itself -/

/-- The last layer of a version has the tables of its own family, read at its own
id. -/
theorem layers_concat {f : Family} {target : VersionId} {layers : List Layer}
    (h : Catalog.shipped.layers f target = .ok layers) :
    ∃ inherited own timeline, layers = inherited ++ [⟨own, target⟩]
      ∧ Catalog.shipped.tables? f = some own ∧ f.modeTimeline? = some timeline := by
  cases f with
  | mysql =>
      cases h
      exact ⟨[], _, _, rfl, rfl, rfl⟩
  | mariaDb =>
      cases h
      exact ⟨[_], _, _, rfl, rfl, rfl⟩
  | standard => cases h

def modeEntries (t : Tables) : Timeline Variable :=
  t.systemVariables.filter (·.value.name == modeVariable)

/-- A family has a mode variable of its own at every id that the tables reach. -/
theorem gives_modeVariable {f : Family} {own : Tables} (hown : Catalog.shipped.tables? f = some own)
    {target : VersionId} (htarget : target ≤ VersionId.greatest) :
    Layer.Gives ⟨own, target⟩ .systemVariable modeVariable := by
  have hunbroken : (modeEntries own).Unbroken Variable.name
      ∧ ∃ e ∈ modeEntries own, e.introduced = VersionId.least := by
    cases f with
    | mysql =>
        cases hown
        decide +kernel
    | mariaDb =>
        cases hown
        decide +kernel
    | standard => cases hown
  obtain ⟨hunbroken, first, hfirst, hstart⟩ := hunbroken
  obtain ⟨e, he, -, hspans⟩ :=
    hunbroken.exists_spans htarget hfirst (hstart ▸ Nat.zero_le target)
  obtain ⟨hmem, hname⟩ := List.mem_filter.mp he
  exact ⟨e.value, ⟨e, hmem, hspans, rfl⟩, beq_iff_eq.mp hname⟩

/-! ## The headline theorem -/

/-- The mode variable of a version within the reach of the tables, and its
flags. -/
theorem modeVariable_resolved {f : Family} {target : VersionId} {layers : List Layer}
    (hlayers : Catalog.shipped.layers f target = .ok layers)
    (htarget : target ≤ VersionId.greatest) :
    ∃ x fs, (Capabilities.resolve layers).variableNamed? modeVariable = some x
      ∧ Mode.parse x.default = .ok (Mode.ofFlags fs)
      ∧ (Mode.ofFlags fs).unsupportedIn f target = [] := by
  obtain ⟨inherited, own, timeline, rfl, hown, htimeline⟩ := layers_concat hlayers
  obtain ⟨x, ⟨e, he, hspans, rfl⟩, hname, hx⟩ :=
    Capabilities.variableNamed?_apply_of_gives (Capabilities.stack inherited)
      (gives_modeVariable hown htarget)
  obtain ⟨fs, hwritten, hknown⟩ := modeDefault_written hown htimeline he hname
  rw [← Capabilities.stack_concat] at hx
  refine ⟨e.value, fs, hx, ?_, Mode.unsupportedIn_eq_nil htimeline ?_⟩
  · rw [hwritten]
    exact Mode.parseWith_names none fs
  · intro flag hflag
    obtain ⟨d, hd, hvalue, hcovers⟩ := hknown flag (Mode.mem_flags_ofFlags.mp hflag)
    exact ⟨d, hd, hcovers.spans hspans, hvalue⟩

/-- **Default modes are legal.** Every version of the lineage can be built. Up to
the last id that the tables reach, its mode variable is there, the default mode is
what the variable's default reads as, and the version knows all its flags. Of the
standard nothing can be built: there are no tables. -/
theorem build_default_mode_legal :
    (∀ (f : Family) (v : Version), f.isLineage = true →
      ∃ p, build Catalog.shipped f v = .ok p ∧ p.family = f ∧ p.version = v
        ∧ (p.id ≤ VersionId.greatest →
          ∃ x, p.variableNamed? "sql_mode" = some x
            ∧ Mode.parse x.default = .ok p.defaultMode
            ∧ p.defaultMode.unsupportedIn p.family p.id = []))
    ∧ ∀ v : Version, build Catalog.shipped .standard v = .error (.noTables .standard) := by
  refine ⟨fun f v hf => ?_, fun v => rfl⟩
  obtain ⟨p, hbuild⟩ := build_shipped hf v
  obtain ⟨layers, m, hlayers, hm, rfl⟩ := build_eq_ok hbuild
  refine ⟨_, hbuild, rfl, rfl, fun hid => ?_⟩
  obtain ⟨x, fs, hx, hparse, hlegal⟩ := modeVariable_resolved hlayers hid
  have hkey : variableKey "sql_mode" = modeVariable := by decide +kernel
  have hmode : m = Mode.ofFlags fs := by
    rw [modeOf, if_pos hf, hx] at hm
    exact Except.ok.inj (hm.symm.trans hparse)
  subst hmode
  refine ⟨x, ?_, hparse, hlegal⟩
  rw [variableNamed?, hkey]
  exact hx

/-- MariaDB 10.1.7 is the first of its versions with flags in the default mode. -/
theorem build_default_mode_legal_first_flags :
    ∃ p q, build Catalog.shipped .mariaDb ⟨10, some 1, some 6⟩ = .ok p
      ∧ build Catalog.shipped .mariaDb ⟨10, some 1, some 7⟩ = .ok q
      ∧ p.defaultMode.flags = []
      ∧ q.defaultMode.flags = [.noAutoCreateUser, .noEngineSubstitution]
      ∧ ∃ x, q.variableNamed? "sql_mode" = some x
        ∧ Mode.parse x.default = .ok q.defaultMode
        ∧ q.defaultMode.unsupportedIn q.family q.id = [] := by
  obtain ⟨p, hp, -⟩ := build_default_mode_legal.1 .mariaDb ⟨10, some 1, some 6⟩ rfl
  obtain ⟨q, hq, -, hversion, hlegal⟩ :=
    build_default_mode_legal.1 .mariaDb ⟨10, some 1, some 7⟩ rfl
  have hnone : (build Catalog.shipped .mariaDb ⟨10, some 1, some 6⟩).toOption.map
      (·.defaultMode.flags) = some [] := by decide +kernel
  have hflags : (build Catalog.shipped .mariaDb ⟨10, some 1, some 7⟩).toOption.map
      (·.defaultMode.flags) = some [.noAutoCreateUser, .noEngineSubstitution] := by decide +kernel
  rw [hp] at hnone
  rw [hq] at hflags
  have hid : q.id ≤ VersionId.greatest := by
    rw [id, hversion]
    decide
  exact ⟨p, q, hp, hq, Option.some.inj hnone, Option.some.inj hflags, hlegal hid⟩

end Platform

end SqlDialect
