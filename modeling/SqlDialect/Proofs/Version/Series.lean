import SqlDialect.Proofs.Version.Grammar
import SqlDialect.Version.Request

/-!
# Release series and the ids of versions

The supported versions are listed by their series, a text, and compared by their
id, a number. The series determines major and minor (`series_inj`). The id does
so only as long as the patch stays within its two digits, which every way to ask
for a version ensures but one: a `Version` that is asked for as it is
(`VersionRequest.InRange`). Within that range two supported versions of the
lineage with one id are of one series (`Family.eq_of_id_eq`).
-/

namespace SqlDialect

namespace Version

/-! ## A series as text -/

theorem dot_not_mem_toString (n : Nat) : '.' ∉ (toString n).toList := by
  intro h
  have hdigits : '.' ∈ Nat.toDigits 10 n := Nat.toList_repr ▸ h
  exact absurd (Nat.isDigit_of_mem_toDigits (by decide) (by decide) hdigits) (by decide)

theorem fields_series (v : Version) :
    Text.fields (· == '.') v.series.toList =
      (toString v.major).toList :: (v.minor.map fun m => (toString m).toList).toList := by
  have hmajor := Text.no_sep_of_not_mem (dot_not_mem_toString v.major)
  unfold series
  split
  · rename_i minor hminor
    have hlist : (toString v.major ++ "." ++ toString minor).toList
        = (toString v.major).toList ++ '.' :: (toString minor).toList := by simp
    rw [hlist, Text.fields_append_sep (by decide) hmajor,
      Text.fields_of_no_sep (Text.no_sep_of_not_mem (dot_not_mem_toString minor)), hminor]
    rfl
  · rename_i hminor
    rw [Text.fields_of_no_sep hmajor, hminor]
    rfl

theorem series_inj {v w : Version} :
    v.series = w.series ↔ v.major = w.major ∧ v.minor = w.minor := by
  constructor
  · intro h
    have hfields := fields_series v
    rw [h, fields_series w, List.cons.injEq, Text.toString_toList_inj] at hfields
    obtain ⟨hmajor, hminor⟩ := hfields
    refine ⟨hmajor.symm, ?_⟩
    cases hv : v.minor with
    | none => cases hw : w.minor <;> simp [hv, hw] at hminor ⊢
    | some m =>
        cases hw : w.minor with
        | none => simp [hv, hw] at hminor
        | some n =>
            simp only [hv, hw, Option.map_some, Option.toList_some, List.cons.injEq, and_true]
              at hminor
            rw [Text.toString_toList_inj.mp hminor]
  · rintro ⟨hmajor, hminor⟩
    rw [series, series, hmajor, hminor]

/-! ## What was read -/

theorem patch_le_of_parse {s : String} {v : Version} (h : parse s = .ok v)
    (hedition : v.isEdition = false) : v.patch.getD lastComponent ≤ lastComponent := by
  obtain ⟨-, hpatch⟩ := (readable_of_parse h).2.inRange (isEdition_eq_false_iff.mp hedition)
  cases hp : v.patch with
  | none => exact Nat.le_refl lastComponent
  | some patch => exact hpatch patch hp

end Version

namespace Family

/-! ## Supported versions

The supported series are texts. Read as versions (`releases`) they say by numbers
what is supported, so that a fact about all supported versions is a check of a
short list. -/

/-- The supported release series as versions. -/
def releases (f : Family) : List Version :=
  f.supportedSeries.filterMap fun s => (Version.parse s).toOption

theorem series_releases (f : Family) : f.releases.map Version.series = f.supportedSeries := by
  cases f <;> decide +kernel

/-- A version is supported when a release has its major and minor. -/
theorem supports_iff {f : Family} {v : Version} :
    f.supports v.series = true ↔ ∃ w ∈ f.releases, w.major = v.major ∧ w.minor = v.minor := by
  rw [supports, List.contains_iff_mem, ← series_releases, List.mem_map]
  simp only [Version.series_inj]

/-! ## Supported versions of the lineage -/

/-- A supported version of the lineage is dotted, and its minor has at most two
digits. -/
theorem supports_dotted {f : Family} (hf : f.isLineage = true) {v : Version}
    (h : f.supports v.series = true) :
    v.isEdition = false ∧ ∃ minor ≤ Version.lastComponent, v.minor = some minor := by
  have hreleases : (f.releases.all fun w =>
      !w.isEdition && w.minor.any (· ≤ Version.lastComponent)) = true := by
    cases f with
    | mysql => decide +kernel
    | mariaDb => decide +kernel
    | standard => cases hf
  obtain ⟨w, hw, hmajor, hminor⟩ := supports_iff.mp h
  have hdotted := List.all_eq_true.mp hreleases w hw
  rw [Bool.and_eq_true, Bool.not_eq_true', Option.any_eq_true] at hdotted
  obtain ⟨hedition, minor, hsome, hle⟩ := hdotted
  refine ⟨?_, minor, of_decide_eq_true hle, hminor ▸ hsome⟩
  rw [Version.isEdition, ← hmajor]
  exact hedition

/-- Two supported versions of the lineage with one id, neither with a patch of
more than two digits, are of one series. -/
theorem eq_of_id_eq {f : Family} (hf : f.isLineage = true) {v w : Version}
    (hv : f.supports v.series = true) (hw : f.supports w.series = true)
    (hpv : v.patch.getD Version.lastComponent ≤ Version.lastComponent)
    (hpw : w.patch.getD Version.lastComponent ≤ Version.lastComponent) (hid : v.id = w.id) :
    v.major = w.major ∧ v.minor = w.minor
      ∧ v.patch.getD Version.lastComponent = w.patch.getD Version.lastComponent := by
  obtain ⟨hev, m, hm, hvm⟩ := supports_dotted hf hv
  obtain ⟨hew, n, hn, hwn⟩ := supports_dotted hf hw
  have hsum : v.major * 10000 + m * 100 + v.patch.getD Version.lastComponent
      = w.major * 10000 + n * 100 + w.patch.getD Version.lastComponent := by
    simpa [Version.id, hev, hew, hvm, hwn] using hid
  simp only [Version.lastComponent] at hm hn hpv hpw hsum ⊢
  refine ⟨by omega, ?_, by omega⟩
  rw [hvm, hwn, Option.some.injEq]
  omega

end Family

namespace VersionRequest

/-! ## Requests -/

/-- A version that is asked for as it is has a patch of at most two digits. All
other requests are in range by themselves. -/
def InRange : VersionRequest → Prop
  | .exact v => v.patch.getD Version.lastComponent ≤ Version.lastComponent
  | .default | .text _ | .number _ => True

theorem resolve_eq_ok {r : VersionRequest} {f : Family} {v : Version}
    (h : r.resolve f = .ok v) : r.meaning f = .ok v ∧ f.supports v.series = true := by
  unfold resolve at h
  split at h
  · cases h
  · rename_i w hw
    split at h
    · rename_i hsupports
      cases h
      exact ⟨hw, hsupports⟩
    · cases h

theorem parse_of_ofText {f : Family} {s : String} {v : Version} (h : ofText f s = .ok v) :
    Version.parse s = .ok v := by
  unfold ofText at h
  split at h
  · rename_i w hw
    cases h
    exact hw
  · cases h

theorem InRange.patch_le {r : VersionRequest} {f : Family} {v : Version} (hr : r.InRange)
    (hf : f.isLineage = true) (h : r.resolve f = .ok v) :
    v.patch.getD Version.lastComponent ≤ Version.lastComponent := by
  obtain ⟨hmeaning, hsupports⟩ := resolve_eq_ok h
  obtain ⟨hedition, -⟩ := Family.supports_dotted hf hsupports
  cases r with
  | default => exact Version.patch_le_of_parse (parse_of_ofText hmeaning) hedition
  | text s => exact Version.patch_le_of_parse (parse_of_ofText hmeaning) hedition
  | number n =>
      cases hmeaning
      unfold ofNumber
      split
      · have hlt : n % 100 < 100 := Nat.mod_lt n (by decide)
        simp only [Option.getD_some, Version.lastComponent]
        omega
      · simp
  | exact w =>
      cases hmeaning
      exact hr

end VersionRequest

end SqlDialect
