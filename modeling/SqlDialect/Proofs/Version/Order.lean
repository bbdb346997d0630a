import Mathlib.Data.Prod.Lex
import SqlDialect.Proofs.Version.Grammar

/-!
# The order of ids

Versions are compared by one number. For dotted versions that were read this is the
same as comparing major, minor and patch one after the other (`Version.rank`): minor
and patch have at most two digits each (`Dotted`), so that none of them reaches into
the place of the next. The id then is written by these digits (`Version.idDigits`), and
no step of its computation needs more than 32 bits (`Version.narrowId?`).

Only what was read is in range. A dotted version with a minor or patch of three digits
has the id of another one.
-/

namespace SqlDialect.Version

/-! ## What the id stands for -/

/-- What dotted versions are compared by: major, minor and patch, one after the
other, where an absent minor counts as `0` and an absent patch comes last. -/
def rank (v : Version) : Nat ×ₗ Nat ×ₗ Nat :=
  toLex (v.major, toLex (v.minor.getD 0, v.patch.getD lastComponent))

/-- The digits of `n`, with zeros in front up to two of them. -/
def twoDigits (n : Nat) : List Char := (toString n).toList.leftpad 2 '0'

/-- The digits of the major and two digits each for minor and patch. -/
def idDigits (v : Version) : List Char :=
  (toString v.major).toList ++ twoDigits (v.minor.getD 0)
    ++ twoDigits (v.patch.getD lastComponent)

def narrow? (n : Nat) : Option Nat := if n < Text.numberBound then some n else none

/-- The id computed in numbers of 32 bits. It is absent if a product or a sum on the
way is too large. -/
def narrowId? (v : Version) : Option VersionId :=
  if v.isEdition then narrow? v.major
  else do
    let majors ← narrow? (v.major * 10000)
    let minors ← narrow? (v.minor.getD 0 * 100)
    let sum ← narrow? (majors + minors)
    narrow? (sum + v.patch.getD lastComponent)

/-- A dotted version whose minor and patch have at most two digits. -/
structure Dotted (v : Version) : Prop where
  major_le : v.major ≤ 90
  minor_le : v.minor.getD 0 ≤ 99
  patch_le : v.patch.getD lastComponent ≤ 99

theorem dotted_of_parse {s : String} {v : Version} (h : parse s = .ok v) (hmajor : v.major ≤ 90) :
    v.Dotted := by
  obtain ⟨hminor, hpatch⟩ := (readable_of_parse h).2.inRange hmajor
  refine ⟨hmajor, ?_, ?_⟩
  · cases hm : v.minor with
    | none => exact Nat.zero_le 99
    | some m => exact hminor m hm
  · cases hp : v.patch with
    | none => exact Nat.le_refl 99
    | some p => exact hpatch p hp

theorem id_of_edition {v : Version} (h : 90 < v.major) : v.id = v.major := by
  have hedition : v.isEdition = true := decide_eq_true h
  rw [id, if_pos hedition]

/-! ## Digits -/

theorem twoDigits_eq {n : Nat} (h : n ≤ 99) :
    twoDigits n = [Nat.digitChar (n / 10), Nat.digitChar (n % 10)] := by
  rw [twoDigits, Text.toList_toString, Nat.toDigits_eq_if (by decide)]
  by_cases hn : n < 10
  · have hdiv : n / 10 = 0 := by omega
    have hmod : n % 10 = n := by omega
    rw [if_pos hn, hdiv, hmod]
    rfl
  · have hdiv : n / 10 < 10 := by omega
    rw [if_neg hn, Nat.toDigits_of_lt_base hdiv]
    rfl

theorem ofDigitChars_twoDigits {n : Nat} (h : n ≤ 99) (init : Nat) :
    Nat.ofDigitChars 10 (twoDigits n) init = init * 100 + n := by
  have hdigit : ∀ {d : Nat}, d < 10 → (Nat.digitChar d).toNat - '0'.toNat = d := by
    intro d hd
    rw [Nat.toNat_digitChar_of_lt_ten hd]
    exact Nat.add_sub_cancel_left ..
  rw [twoDigits_eq h, Nat.ofDigitChars_cons, Nat.ofDigitChars_cons, Nat.ofDigitChars_nil,
    hdigit (by omega), hdigit (by omega)]
  omega

/-- The digits of a number that is not `0` go on with two more. -/
theorem toDigits_append_twoDigits {m n : Nat} (hm : 0 < m) (hn : n ≤ 99) :
    Nat.toDigits 10 m ++ twoDigits n = Nat.toDigits 10 (m * 100 + n) := by
  have hfirst : Nat.toDigits 10 m ++ [Nat.digitChar (n / 10)]
      = Nat.toDigits 10 (10 * m + n / 10) := by
    rw [← Nat.toDigits_of_lt_base (b := 10) (show n / 10 < 10 by omega),
      Nat.toDigits_append_toDigits (by decide) hm (by omega)]
  have hsum : m * 100 + n = 10 * (10 * m + n / 10) + n % 10 := by omega
  calc Nat.toDigits 10 m ++ twoDigits n
      = (Nat.toDigits 10 m ++ [Nat.digitChar (n / 10)]) ++ [Nat.digitChar (n % 10)] := by
        rw [twoDigits_eq hn, List.append_assoc, List.singleton_append]
    _ = Nat.toDigits 10 (10 * m + n / 10) ++ Nat.toDigits 10 (n % 10) := by
        rw [hfirst, Nat.toDigits_of_lt_base (b := 10) (show n % 10 < 10 by omega)]
    _ = Nat.toDigits 10 (m * 100 + n) := by
        rw [hsum, Nat.toDigits_append_toDigits (by decide) (by omega) (by omega)]

/-! ## Dotted versions -/

/-- Numbers of which all but the first have at most two digits are compared one after
the other when they are written without a gap. -/
theorem written_lt_written_iff {a b c a' b' c' : Nat} (hb : b ≤ 99) (hc : c ≤ 99) (hb' : b' ≤ 99)
    (hc' : c' ≤ 99) :
    a * 10000 + b * 100 + c < a' * 10000 + b' * 100 + c' ↔
      a < a' ∨ a = a' ∧ (b < b' ∨ b = b' ∧ c < c') := by
  omega

theorem narrow?_eq_some {n : Nat} (h : n < Text.numberBound) : narrow? n = some n := if_pos h

namespace Dotted

variable {v w : Version}

theorem id_eq (h : v.Dotted) :
    v.id = v.major * 10000 + v.minor.getD 0 * 100 + v.patch.getD lastComponent := by
  rw [id, isEdition_eq_false_iff.mpr h.major_le]
  rfl

/-- A smaller id is a smaller version: no component reaches into the next. -/
theorem id_lt_iff (hv : v.Dotted) (hw : w.Dotted) : v.id < w.id ↔ v.rank < w.rank := by
  rw [hv.id_eq, hw.id_eq, rank, rank, Prod.Lex.toLex_lt_toLex, Prod.Lex.toLex_lt_toLex]
  exact written_lt_written_iff hv.minor_le hv.patch_le hw.minor_le hw.patch_le

/-- As the order of the versions is total, the ids tell them apart. -/
theorem id_inj (hv : v.Dotted) (hw : w.Dotted) : v.id = w.id ↔ v.rank = w.rank := by
  rw [le_antisymm_iff, le_antisymm_iff, ← not_lt, ← not_lt, hv.id_lt_iff hw, hw.id_lt_iff hv,
    not_lt, not_lt]

theorem ofDigitChars_idDigits (h : v.Dotted) : Nat.ofDigitChars 10 v.idDigits 0 = v.id := by
  rw [idDigits, Nat.ofDigitChars_append, Nat.ofDigitChars_append, Text.ofDigitChars_toString,
    ofDigitChars_twoDigits h.minor_le, ofDigitChars_twoDigits h.patch_le, h.id_eq]
  omega

/-- The digits start with a zero only where the major is `0`; else they are the id as
it is written. -/
theorem toString_id (h : v.Dotted) (hpos : 0 < v.major) : (toString v.id).toList = v.idDigits := by
  have hsum : v.major * 10000 + v.minor.getD 0 * 100 + v.patch.getD lastComponent
      = (v.major * 100 + v.minor.getD 0) * 100 + v.patch.getD lastComponent := by omega
  rw [idDigits, Text.toList_toString, Text.toList_toString,
    toDigits_append_twoDigits hpos h.minor_le, toDigits_append_twoDigits (by omega) h.patch_le, h.id_eq, hsum]

theorem id_le (h : v.Dotted) : v.id ≤ 909999 := by
  obtain ⟨hmajor, hminor, hpatch⟩ := h
  have hsum : v.major * 10000 + v.minor.getD 0 * 100 + v.patch.getD lastComponent ≤ 909999 := by
    omega
  rwa [id_eq ⟨hmajor, hminor, hpatch⟩]

theorem narrowId?_eq (h : v.Dotted) : v.narrowId? = some v.id := by
  obtain ⟨hmajor, hminor, hpatch⟩ := h
  have hbound : Text.numberBound = 4294967296 := rfl
  have hmajors := narrow?_eq_some (show v.major * 10000 < Text.numberBound by omega)
  have hminors := narrow?_eq_some (show v.minor.getD 0 * 100 < Text.numberBound by omega)
  have hsum := narrow?_eq_some
    (show v.major * 10000 + v.minor.getD 0 * 100 < Text.numberBound by omega)
  have hid := narrow?_eq_some (show v.major * 10000 + v.minor.getD 0 * 100
    + v.patch.getD lastComponent < Text.numberBound by omega)
  rw [id_eq ⟨hmajor, hminor, hpatch⟩, narrowId?, isEdition_eq_false_iff.mpr hmajor, hmajors,
    hminors]
  simp only [Bool.false_eq_true, if_false, Option.bind_eq_bind, Option.bind_some, hsum, hid]

end Dotted

/-- No id of a version that was read needs more than 32 bits, nor does any step on the
way to it. -/
theorem narrowId?_of_parse {s : String} {v : Version} (h : parse s = .ok v) :
    v.narrowId? = some v.id := by
  rcases Nat.lt_or_ge 90 v.major with hedition | hdotted
  · have hfits : v.major < Text.numberBound := (readable_of_parse h).1.1
    have hyear : v.isEdition = true := decide_eq_true hedition
    rw [id_of_edition hedition, narrowId?, if_pos hyear, narrow?_eq_some hfits]
  · exact (dotted_of_parse h hdotted).narrowId?_eq

/-! ## The headline theorem -/

/-- **The order of ids is the order of versions.** Dotted versions that were read are in
the order of their ids exactly when major, minor and patch are, one after the other, an
absent minor counting as `0` and an absent patch as `99`. The id has the digits of the
three in a row and is at most `909999`; that of an edition is its year. None needs more
than 32 bits, nor does any step on the way to it. -/
theorem ids_embed_order :
    (∀ (s t : String) (v w : Version), parse s = .ok v → parse t = .ok w →
      v.major ≤ 90 → w.major ≤ 90 →
      (v.id < w.id ↔ v.rank < w.rank) ∧ (v.id = w.id ↔ v.rank = w.rank))
    ∧ (∀ (s : String) (v : Version), parse s = .ok v → v.major ≤ 90 →
      Nat.ofDigitChars 10 v.idDigits 0 = v.id
      ∧ (0 < v.major → (toString v.id).toList = v.idDigits)
      ∧ v.id ≤ 909999 ∧ v.id < VersionId.greatest)
    ∧ (∀ (s : String) (v : Version), parse s = .ok v → v.narrowId? = some v.id)
    ∧ (∀ v w : Version, 90 < v.major → 90 < w.major →
      v.id = v.major ∧ (v.id < w.id ↔ v.major < w.major) ∧ (v.id = w.id ↔ v.major = w.major)) := by
  refine ⟨?_, ?_, ?_, ?_⟩
  · intro s t v w hv hw hvmajor hwmajor
    have hvdotted := dotted_of_parse hv hvmajor
    have hwdotted := dotted_of_parse hw hwmajor
    exact ⟨hvdotted.id_lt_iff hwdotted, hvdotted.id_inj hwdotted⟩
  · intro s v hv hmajor
    have hdotted := dotted_of_parse hv hmajor
    exact ⟨hdotted.ofDigitChars_idDigits, hdotted.toString_id, hdotted.id_le,
      Nat.lt_of_le_of_lt hdotted.id_le (by decide)⟩
  · intro s v hv
    exact narrowId?_of_parse hv
  · intro v w hv hw
    rw [id_of_edition hv, id_of_edition hw]
    exact ⟨rfl, Iff.rfl, Iff.rfl⟩

/-- `8.0` comes after every `8.0.x` that was spelled out but the last, of which it has
the id, and `8` is `8.0`; the digits of `10.0.7` have zeros inside. -/
theorem ids_embed_order_absent_patch :
    Version.id ⟨8, some 0, some 5⟩ < Version.id ⟨8, some 0, none⟩
      ∧ Version.id ⟨8, none, none⟩ = Version.id ⟨8, some 0, some 99⟩
      ∧ toString (Version.id ⟨10, some 0, some 7⟩) = "100007"
      ∧ (Version.id ⟨92, none, none⟩ < Version.id ⟨2016, none, none⟩) := by
  obtain ⟨horder, hdigits, -, heditions⟩ := ids_embed_order
  have hspelled : parse "8.0.5" = .ok ⟨8, some 0, some 5⟩ := rfl
  have hseries : parse "8.0" = .ok ⟨8, some 0, none⟩ := rfl
  have hmajor : parse "8" = .ok ⟨8, none, none⟩ := rfl
  have hlast : parse "8.0.99" = .ok ⟨8, some 0, some 99⟩ := rfl
  have hzeros : parse "10.0.7" = .ok ⟨10, some 0, some 7⟩ := rfl
  refine ⟨?_, ?_, ?_, ?_⟩
  · exact (horder _ _ _ _ hspelled hseries (by decide) (by decide)).1.mpr (by decide)
  · exact (horder _ _ _ _ hmajor hlast (by decide) (by decide)).2.mpr rfl
  · obtain ⟨-, htext, -⟩ := hdigits _ _ hzeros (by decide)
    exact String.toList_inj.mp ((htext (by decide)).trans rfl)
  · exact (heditions _ _ (by decide) (by decide)).2.1.mpr (by decide)

end SqlDialect.Version
