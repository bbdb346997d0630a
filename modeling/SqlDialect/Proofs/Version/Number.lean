import SqlDialect.Proofs.Version.Series

/-!
# Numbers that mean versions

A number is asked for as a version by taking it for an id. This undoes
`Version.id` in both directions.

- Whatever version a number means, if it is supported, has that number for its id
  (`id_ofNumber`). The digits of a dotted id are cut apart and put together again;
  an edition of the standard is its own id.
- The id of a supported version, taken as a number, means a version of the same
  series (`ofNumber_id`), with the patch that the id spells where none was given.

Both rest on what is supported: the lineage has only dotted versions with a minor
(`Family.supports_dotted`), the standard only editions without one
(`Family.supports_edition`).
-/

namespace SqlDialect

namespace Family

/-! ## Supported versions by number -/

theorem eq_standard {f : Family} (hf : f.isLineage = false) : f = .standard := by
  cases f with
  | mysql => cases hf
  | mariaDb => cases hf
  | standard => rfl

/-- A supported version of the standard is an edition, named by its year alone. -/
theorem supports_edition {v : Version} (h : Family.standard.supports v.series = true) :
    v.isEdition = true ∧ v.minor = none := by
  have hreleases : (Family.standard.releases.all fun w => w.isEdition && w.minor.isNone) = true := by
    decide +kernel
  obtain ⟨w, hw, hmajor, hminor⟩ := supports_iff.mp h
  have hedition := List.all_eq_true.mp hreleases w hw
  rw [Bool.and_eq_true, Option.isNone_iff_eq_none] at hedition
  rw [Version.isEdition, ← hmajor, ← hminor]
  exact hedition

theorem supports_major_pos {f : Family} (hf : f.isLineage = true) {v : Version}
    (h : f.supports v.series = true) : 0 < v.major := by
  have hreleases : (f.releases.all fun w => decide (0 < w.major)) = true := by
    cases f with
    | mysql => decide +kernel
    | mariaDb => decide +kernel
    | standard => cases hf
  obtain ⟨w, hw, hmajor, -⟩ := supports_iff.mp h
  rw [← hmajor]
  exact of_decide_eq_true (List.all_eq_true.mp hreleases w hw)

end Family

namespace Version

/-- The id of a dotted version of the lineage, digit by digit. -/
theorem id_of_supports {f : Family} (hf : f.isLineage = true) {v : Version}
    (h : f.supports v.series = true) :
    ∃ minor ≤ lastComponent, v.minor = some minor
      ∧ v.major * 10000 + minor * 100 + v.patch.getD lastComponent = v.id := by
  obtain ⟨hedition, minor, hle, hminor⟩ := Family.supports_dotted hf h
  exact ⟨minor, hle, hminor, by simp [id, hedition, hminor]⟩

/-- The id of a supported version of the lineage is one of the hundred that end
with the id of its release. -/
theorem exists_release {f : Family} (hf : f.isLineage = true) {v : Version}
    (h : f.supports v.series = true) (hpatch : v.patch.getD lastComponent ≤ lastComponent) :
    ∃ w ∈ f.releases, v.id ≤ w.id ∧ w.id ≤ v.id + lastComponent := by
  have hreleases : (f.releases.all fun w => w.patch.isNone) = true := by cases f <;> decide +kernel
  obtain ⟨w, hw, hmajor, hminor⟩ := Family.supports_iff.mp h
  have hwpatch : w.patch = none := Option.isNone_iff_eq_none.mp (List.all_eq_true.mp hreleases w hw)
  have hwsupports : f.supports w.series = true := by rwa [series_inj.mpr ⟨hmajor, hminor⟩]
  obtain ⟨m, -, hm, hid⟩ := id_of_supports hf h
  obtain ⟨n, -, hn, hwid⟩ := id_of_supports hf hwsupports
  rw [hminor, hm] at hn
  obtain rfl := Option.some.inj hn
  rw [hmajor, hwpatch, Option.getD_none] at hwid
  refine ⟨w, hw, ?_, ?_⟩
  · rw [← hid, ← hwid]
    exact Nat.add_le_add_left hpatch _
  · rw [← hid, ← hwid]
    exact Nat.add_le_add_right (Nat.le_add_right _ _) _

end Version

namespace VersionRequest

/-! ## From a number to its version -/

/-- In the lineage only a number of at least five digits means a dotted version. -/
theorem leastDottedId_le_of_supports {f : Family} (hf : f.isLineage = true) {n : Nat}
    (h : f.supports (ofNumber f n).series = true) : leastDottedId ≤ n := by
  obtain ⟨-, minor, -, hminor⟩ := Family.supports_dotted hf h
  by_cases hn : leastDottedId ≤ n
  · exact hn
  · simp [ofNumber, hf, hn] at hminor

theorem id_ofNumber {f : Family} {n : Nat} (h : f.supports (ofNumber f n).series = true) :
    (ofNumber f n).id = n := by
  cases hf : f.isLineage with
  | true =>
      have hn := leastDottedId_le_of_supports hf h
      have hsum : n / 10000 * 10000 + n / 100 % 100 * 100 + n % 100 = n := by omega
      obtain ⟨minor, -, hminor, hid⟩ := Version.id_of_supports hf h
      have hdigits : ofNumber f n = ⟨n / 10000, some (n / 100 % 100), some (n % 100)⟩ := by
        simp [ofNumber, hf, hn]
      rw [hdigits] at hminor hid ⊢
      obtain rfl := Option.some.inj hminor
      exact hid.symm.trans hsum
  | false =>
      obtain rfl := Family.eq_standard hf
      have hyear : ofNumber .standard n = ⟨n, none, none⟩ := rfl
      rw [hyear] at h ⊢
      rw [Version.id, (Family.supports_edition h).1]
      rfl

/-! ## From a version to its number -/

/-- The id of a supported version of the lineage means that version, with its
patch spelled out. -/
theorem ofNumber_id {f : Family} (hf : f.isLineage = true) {v : Version}
    (h : f.supports v.series = true)
    (hpatch : v.patch.getD Version.lastComponent ≤ Version.lastComponent) :
    ofNumber f v.id = ⟨v.major, v.minor, some (v.patch.getD Version.lastComponent)⟩ := by
  obtain ⟨minor, hle, hminor, hid⟩ := Version.id_of_supports hf h
  have hmajor := Family.supports_major_pos hf h
  simp only [Version.lastComponent] at hle hpatch hid ⊢
  have hdotted : leastDottedId ≤ v.id := by
    rw [leastDottedId]
    omega
  simp only [ofNumber, hf, hdotted, decide_true, Bool.and_self, if_true, hminor, Version.mk.injEq,
    Option.some.injEq]
  omega

theorem ofNumber_id_standard {s : String} {v : Version} (hparse : Version.parse s = .ok v)
    (h : Family.standard.supports v.series = true) : ofNumber .standard v.id = v := by
  obtain ⟨hedition, hminor⟩ := Family.supports_edition h
  have hpatch := (Version.readable_of_parse hparse).2.patch_shown hminor
  obtain ⟨major, minor, patch⟩ := v
  simp only at hminor hpatch
  subst hminor hpatch
  simp [ofNumber, Family.isLineage, Version.id, hedition]

/-! ## Requests -/

theorem resolve_of_supports {r : VersionRequest} {f : Family} {v : Version}
    (hmeaning : r.meaning f = .ok v) (hsupports : f.supports v.series = true) :
    r.resolve f = .ok v := by
  rw [resolve, hmeaning]
  exact if_pos hsupports

theorem resolve_number {f : Family} {n : Nat} {v : Version}
    (h : (VersionRequest.number n).resolve f = .ok v) :
    v = ofNumber f n ∧ f.supports (ofNumber f n).series = true := by
  obtain ⟨hmeaning, hsupports⟩ := resolve_eq_ok h
  cases hmeaning
  exact ⟨rfl, hsupports⟩

theorem parse_of_resolve {r : VersionRequest} (hr : r = .default ∨ ∃ s, r = .text s) {f : Family}
    {v : Version} (h : r.resolve f = .ok v) : ∃ s, Version.parse s = .ok v := by
  obtain ⟨hmeaning, -⟩ := resolve_eq_ok h
  rcases hr with rfl | ⟨s, rfl⟩
  · exact ⟨_, parse_of_ofText hmeaning⟩
  · exact ⟨s, parse_of_ofText hmeaning⟩

/-- What a supported version that was read becomes when its id is asked for as a
number. -/
theorem resolve_number_id {f : Family} {s : String} {v : Version}
    (hparse : Version.parse s = .ok v) (h : f.supports v.series = true) :
    ∃ w, (VersionRequest.number v.id).resolve f = .ok w ∧ w.major = v.major ∧ w.minor = v.minor
      ∧ (f.isLineage = true → w.patch = some (v.patch.getD Version.lastComponent))
      ∧ (f = .standard → w = v) := by
  cases hf : f.isLineage with
  | true =>
      have hpatch := Version.patch_le_of_parse hparse (Family.supports_dotted hf h).1
      have hnumber := ofNumber_id hf h hpatch
      have hseries : (ofNumber f v.id).series = v.series := by
        rw [hnumber]
        rfl
      refine ⟨ofNumber f v.id, resolve_of_supports rfl (hseries ▸ h), ?_⟩
      rw [hnumber]
      exact ⟨rfl, rfl, fun _ => rfl, fun hstandard => by subst hstandard; cases hf⟩
  | false =>
      obtain rfl := Family.eq_standard hf
      have hnumber := ofNumber_id_standard hparse h
      refine ⟨v, ?_, rfl, rfl, fun hlineage => (by cases hlineage), fun _ => rfl⟩
      exact resolve_of_supports (congrArg Except.ok hnumber) h

/-! ## The headline theorem -/

/-- **Numbers and ids.** A number that resolves is the id of the version it resolves to.
The id of a version that was asked for by default or by text resolves as a number, to a
version of the same id, major and minor; in the lineage an omitted patch comes back as
`99`, for the standard it is the very same version. -/
theorem numbers_invert_ids :
    (∀ (f : Family) (n : Nat) (v : Version), (VersionRequest.number n).resolve f = .ok v →
      v.id = n ∧ (f.isLineage = true → 10000 ≤ n))
    ∧ ∀ (f : Family) (r : VersionRequest) (v : Version),
      (r = .default ∨ ∃ s, r = .text s) → r.resolve f = .ok v →
      ∃ w, (VersionRequest.number v.id).resolve f = .ok w
        ∧ w.id = v.id ∧ w.major = v.major ∧ w.minor = v.minor
        ∧ (f.isLineage = true → w.patch = some (v.patch.getD 99))
        ∧ (f = .standard → w = v) := by
  refine ⟨fun f n v h => ?_, fun f r v hr h => ?_⟩
  · obtain ⟨rfl, hsupports⟩ := resolve_number h
    exact ⟨id_ofNumber hsupports, fun hf => leastDottedId_le_of_supports hf hsupports⟩
  · obtain ⟨s, hparse⟩ := parse_of_resolve hr h
    obtain ⟨w, hw, hmajor, hminor, hlineage, hstandard⟩ :=
      resolve_number_id hparse (resolve_eq_ok h).2
    obtain ⟨rfl, hsupports⟩ := resolve_number hw
    exact ⟨_, hw, id_ofNumber hsupports, hmajor, hminor, hlineage, hstandard⟩

/-- The series 10.10 and 10.1 differ as numbers by what looks like a last zero:
`101099` is 10.10 again, with the patch that was left out, while 10.1 is
`100199`. -/
theorem numbers_invert_ids_ten_ten :
    VersionRequest.resolve (.text "10.10") .mariaDb = .ok ⟨10, some 10, none⟩
      ∧ VersionRequest.resolve (.number 101099) .mariaDb = .ok ⟨10, some 10, some 99⟩
      ∧ VersionRequest.resolve (.number 100199) .mariaDb = .ok ⟨10, some 1, some 99⟩
      ∧ Version.id ⟨10, some 1, some 99⟩ = 100199 := by
  have htext : VersionRequest.resolve (.text "10.10") .mariaDb = .ok ⟨10, some 10, none⟩ := rfl
  have hone : VersionRequest.resolve (.number 100199) .mariaDb = .ok ⟨10, some 1, some 99⟩ := rfl
  obtain ⟨w, hw, -, hmajor, hminor, hpatch, -⟩ :=
    numbers_invert_ids.2 .mariaDb (.text "10.10") _ (Or.inr ⟨_, rfl⟩) htext
  obtain ⟨major, minor, patch⟩ := w
  obtain rfl : major = 10 := hmajor
  obtain rfl : minor = some 10 := hminor
  obtain rfl : patch = some 99 := hpatch rfl
  exact ⟨htext, hw, hone, (numbers_invert_ids.1 .mariaDb 100199 _ hone).1⟩

end VersionRequest

end SqlDialect
