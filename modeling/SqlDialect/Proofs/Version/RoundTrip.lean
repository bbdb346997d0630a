import SqlDialect.Proofs.Version.Grammar
import SqlDialect.Proofs.Version.Series

/-!
# Versions as text and back

The text of a version has the digits of its components between dots. It is read
back as the same version as long as nothing was left out of it and it is in range
(`Version.Readable`); and what was read is always like that. A version can
therefore be asked for by its text as well as by itself.
-/

namespace SqlDialect

namespace Version

/-! ## What is printed -/

def digits (v : Version) : List (List Char) :=
  (v.major :: (v.minor.toList ++ v.patch.toList)).map fun n => (toString n).toList

theorem text_eq_digits {v : Version} (h : v.minor = none → v.patch = none) :
    v.text.toList = ['.'].intercalate v.digits := by
  obtain ⟨major, minor, patch⟩ := v
  cases minor with
  | none =>
      obtain rfl : patch = none := h rfl
      simp [text, series, digits]
  | some m =>
      cases patch with
      | none => simp [text, series, digits]
      | some p => simp [text, series, digits]

theorem component_toString {n : Nat} (h : n < 2 ^ 32) : Component (toString n).toList n :=
  ⟨_, Text.trims_iff.mpr (Text.trim_eq_self (Text.isBlank_toString n)), Text.isNumber_toString h⟩

theorem spelled_digits {v : Version} (hfits : v.Fits) (h : v.minor = none → v.patch = none) :
    Spelled v.digits v := by
  obtain ⟨major, minor, patch⟩ := v
  obtain ⟨hmajor, hminor, hpatch⟩ := hfits
  have hx : Component (toString major).toList major := component_toString hmajor
  cases minor with
  | none =>
      obtain rfl : patch = none := h rfl
      exact .major hx
  | some m =>
      have hy : Component (toString m).toList m := component_toString (hminor m rfl)
      cases patch with
      | none => exact .minor hx hy
      | some p => exact .patch hx hy (component_toString (hpatch p rfl))

theorem segmented_text {v : Version} (h : v.minor = none → v.patch = none) :
    Segmented v.text v.text.toList v.digits := by
  have hnumber : ∀ p ∈ v.digits, ∃ n : Nat, p = (toString n).toList := by
    intro p hp
    obtain ⟨n, -, rfl⟩ := List.mem_map.mp hp
    exact ⟨n, rfl⟩
  have hblank : ∀ c ∈ v.text.toList, Text.isBlank c = false := by
    rw [text_eq_digits h]
    refine Text.forall_mem_intercalate (by decide) fun p hp => ?_
    obtain ⟨n, rfl⟩ := hnumber p hp
    exact Text.isBlank_toString n
  have hcuts : Text.Cuts '.' v.text.toList v.digits := by
    refine ⟨(text_eq_digits h).symm, List.cons_ne_nil _ _, fun p hp => ?_⟩
    obtain ⟨n, rfl⟩ := hnumber p hp
    exact dot_not_mem_toString n
  refine ⟨Text.trims_iff.mpr (Text.trim_eq_self hblank), fun hnil => ?_, hcuts⟩
  -- an empty text has one piece, and no number is written without a digit
  rw [hnil, Text.cuts_iff] at hcuts
  have hmajor : (toString v.major).toList = [] := (List.cons.inj hcuts).1.symm
  exact Text.toString_ne_nil v.major hmajor

theorem parse_text {v : Version} (hfits : v.Fits) (h : v.Readable) : parse v.text = .ok v :=
  parse_of_reads (.version (segmented_text h.patch_shown) (spelled_digits hfits h.patch_shown)
    h.inRange)

end Version

namespace VersionRequest

/-- The version itself and its text are granted alike, or refused alike, with the
text of the version. -/
theorem resolve_text {v : Version} (h : Version.parse v.text = .ok v) (f : Family) :
    resolve (.text v.text) f = resolve (.exact v) f := by
  rw [resolve, resolve, meaning, meaning, ofText, h]

theorem resolve_exact (v : Version) (f : Family) :
    resolve (.exact v) f = .ok v ∨ resolve (.exact v) f = .error (.unknownVersion f v.text) := by
  rw [resolve, meaning]
  simp only
  split
  · exact Or.inl rfl
  · exact Or.inr rfl

end VersionRequest

/-! ## The headline theorem -/

/-- **Text and back.** The text of a version is read as that version exactly when it has
no patch without a minor and, if it is dotted, minor and patch have at most two digits.
This is so of whatever was read. Such a version can be asked for by its text as well as
by itself, with the same answer. -/
theorem Version.text_reads_back :
    (∀ v : Version, v.Fits → (parse v.text = .ok v ↔ v.Readable))
    ∧ (∀ (s : String) (v : Version), parse s = .ok v →
      v.Fits ∧ v.Readable ∧ parse v.text = .ok v)
    ∧ ∀ (v : Version) (f : Family), v.Fits → v.Readable →
      VersionRequest.resolve (.text v.text) f = VersionRequest.resolve (.exact v) f
      ∧ (VersionRequest.resolve (.exact v) f = .ok v
        ∨ VersionRequest.resolve (.exact v) f = .error (.unknownVersion f v.text)) := by
  refine ⟨fun v hfits => ⟨fun h => (readable_of_parse h).2, parse_text hfits⟩, ?_, ?_⟩
  · intro s v h
    obtain ⟨hfits, hreadable⟩ := readable_of_parse h
    exact ⟨hfits, hreadable, parse_text hfits hreadable⟩
  · intro v f hfits hreadable
    exact ⟨VersionRequest.resolve_text (parse_text hfits hreadable) f,
      VersionRequest.resolve_exact v f⟩

/-- An edition may have any minor and patch, also the largest number; a dotted version
whose patch stands without a minor is not read back; and zeros in front of a number
are gone when the version is shown. -/
theorem Version.text_reads_back_edition :
    (⟨2016, some 100, some 4294967295⟩ : Version).Fits
      ∧ (⟨2016, some 100, some 4294967295⟩ : Version).Readable
      ∧ parse "2016.100.4294967295" = .ok ⟨2016, some 100, some 4294967295⟩
      ∧ parse (text ⟨8, none, some 3⟩) ≠ .ok ⟨8, none, some 3⟩
      ∧ parse " 08.00" = .ok ⟨8, some 0, none⟩ ∧ parse "8.0" = .ok ⟨8, some 0, none⟩
      ∧ VersionRequest.resolve (.text "2016.100.4294967295") .standard
        = VersionRequest.resolve (.exact ⟨2016, some 100, some 4294967295⟩) .standard := by
  obtain ⟨hback, hread, hresolve⟩ := text_reads_back
  have hfits : (⟨2016, some 100, some 4294967295⟩ : Version).Fits := by
    refine ⟨by decide, ?_, ?_⟩
    · rintro m ⟨⟩
      decide
    · rintro p ⟨⟩
      decide
  have hreadable : (⟨2016, some 100, some 4294967295⟩ : Version).Readable :=
    ⟨fun h => (by cases h), fun h => absurd h (by decide)⟩
  have hhidden : (⟨8, none, some 3⟩ : Version).Fits := by
    refine ⟨by decide, ?_, ?_⟩
    · rintro m ⟨⟩
    · rintro p ⟨⟩
      decide
  have hzeros : parse " 08.00" = .ok ⟨8, some 0, none⟩ := rfl
  refine ⟨hfits, hreadable, (hback _ hfits).mpr hreadable, fun h => ?_, hzeros,
    (hread _ _ hzeros).2.2, (hresolve _ .standard hfits hreadable).1⟩
  have hshown := ((hback _ hhidden).mp h).patch_shown rfl
  cases hshown

end SqlDialect
