import SqlDialect.Proofs.Text.Split
import SqlDialect.Text.Ascii

/-!
# Names up to case

The two normal forms of a name agree on what they identify: two names differ
only in the case of `A`-`Z` exactly when they are the same in capital letters
(`sameName_iff`). A name that is in capital letters already is therefore the
only such spelling of itself. Case has nothing to do with blanks
(`isBlank_upperChar`, `isBlank_lowerChar`).
-/

namespace SqlDialect.Text

/-- Below the surrogates every number is the code point of a character. -/
theorem toNat_ofNat {n : Nat} (h : n < 0xD800) : (Char.ofNat n).toNat = n := by
  have hvalid : n.isValidChar := Or.inl h
  rw [Char.ofNat, dif_pos hvalid]
  rfl

/-- A character stays as it is in capital letters, or it is a small letter and becomes
the capital one. -/
theorem upperChar_cases (c : Char) :
    upperChar c = c
    ∨ 0x61 ≤ c.toNat ∧ c.toNat ≤ 0x7A ∧ (upperChar c).toNat = c.toNat - 0x20 := by
  rw [upperChar]
  split
  · rename_i hlower
    simp only [isLowerLetter, Bool.and_eq_true, decide_eq_true_eq] at hlower
    exact Or.inr ⟨hlower.1, hlower.2, toNat_ofNat (by omega)⟩
  · exact Or.inl rfl

theorem lowerChar_cases (c : Char) :
    lowerChar c = c ∧ isUpperLetter c = false
    ∨ 0x41 ≤ c.toNat ∧ c.toNat ≤ 0x5A ∧ (lowerChar c).toNat = c.toNat + 0x20 := by
  rw [lowerChar]
  split
  · rename_i hupper
    simp only [isUpperLetter, Bool.and_eq_true, decide_eq_true_eq] at hupper
    exact Or.inr ⟨hupper.1, hupper.2, toNat_ofNat (by omega)⟩
  · rename_i hupper
    exact Or.inl ⟨rfl, Bool.eq_false_iff.mpr hupper⟩

theorem upperChar_lowerChar (c : Char) : upperChar (lowerChar c) = upperChar c := by
  unfold lowerChar
  split
  · rename_i hupper
    simp only [isUpperLetter, Bool.and_eq_true, decide_eq_true_eq] at hupper
    have hnat : (Char.ofNat (c.toNat + 0x20)).toNat = c.toNat + 0x20 := toNat_ofNat (by omega)
    have hlower : isLowerLetter (Char.ofNat (c.toNat + 0x20)) = true := by
      simp only [isLowerLetter, hnat, Bool.and_eq_true, decide_eq_true_eq]
      omega
    have hcapital : isLowerLetter c = false := by
      simp only [isLowerLetter, Bool.and_eq_false_iff, decide_eq_false_iff_not]
      omega
    simp [upperChar, hlower, hnat, hcapital]
  · rfl

theorem lowerChar_upperChar (c : Char) : lowerChar (upperChar c) = lowerChar c := by
  unfold upperChar
  split
  · rename_i hlower
    simp only [isLowerLetter, Bool.and_eq_true, decide_eq_true_eq] at hlower
    have hnat : (Char.ofNat (c.toNat - 0x20)).toNat = c.toNat - 0x20 := toNat_ofNat (by omega)
    have hupper : isUpperLetter (Char.ofNat (c.toNat - 0x20)) = true := by
      simp only [isUpperLetter, hnat, Bool.and_eq_true, decide_eq_true_eq]
      omega
    have hsmall : isUpperLetter c = false := by
      simp only [isUpperLetter, Bool.and_eq_false_iff, decide_eq_false_iff_not]
      omega
    have hback : c.toNat - 0x20 + 0x20 = c.toNat := by omega
    simp [lowerChar, hupper, hnat, hsmall, hback]
  · rfl

/-- Equality up to case is equality in capital letters. -/
theorem sameName_iff {s t : String} : sameName s t = true ↔ upper s = upper t := by
  have hlift : ∀ {f g : Char → Char}, (∀ c, g (f c) = g c) → ∀ {cs ds : List Char},
      cs.map f = ds.map f → cs.map g = ds.map g := by
    intro f g hfg cs ds h
    have := congrArg (List.map g) h
    simpa [Function.comp_def, hfg] using this
  rw [sameName, beq_iff_eq, upper, upper, String.ofList_inj]
  exact ⟨hlift upperChar_lowerChar, hlift lowerChar_upperChar⟩

theorem sameName_iff_lower {s t : String} : sameName s t = true ↔ lower s = lower t := by
  rw [sameName, beq_iff_eq, lower, lower, String.ofList_inj]

theorem upper_upper (s : String) : upper (upper s) = upper s := by
  have htwice : ∀ c, upperChar (upperChar c) = upperChar c := by
    intro c
    rw [← upperChar_lowerChar, lowerChar_upperChar, upperChar_lowerChar]
  simp only [upper, String.toList_ofList, List.map_map, Function.comp_def, htwice]

theorem lower_lower (s : String) : lower (lower s) = lower s := by
  have htwice : ∀ c, lowerChar (lowerChar c) = lowerChar c := by
    intro c
    rw [← lowerChar_upperChar, upperChar_lowerChar, lowerChar_upperChar]
  simp only [lower, String.toList_ofList, List.map_map, Function.comp_def, htwice]

theorem sameName_comm (s t : String) : sameName s t = sameName t s := by
  rw [Bool.eq_iff_iff, sameName_iff, sameName_iff, eq_comm]

theorem lower_append (s t : String) : lower (s ++ t) = lower s ++ lower t := by
  rw [lower, lower, lower, String.toList_append, List.map_append, String.ofList_append]

theorem length_lower (s : String) : (lower s).toList.length = s.toList.length := by
  rw [lower, String.toList_ofList, List.length_map]

theorem upper_eq_self {s : String} (h : ∀ c ∈ s.toList, isLowerLetter c = false) :
    upper s = s := by
  have hmap : s.toList.map upperChar = s.toList.map id :=
    List.map_congr_left fun c hc => by rw [upperChar, h c hc]; rfl
  rw [upper, hmap, List.map_id, String.ofList_toList]

theorem lower_eq_self {s : String} (h : ∀ c ∈ s.toList, isUpperLetter c = false) :
    lower s = s := by
  have hmap : s.toList.map lowerChar = s.toList.map id :=
    List.map_congr_left fun c hc => by rw [lowerChar, h c hc]; rfl
  rw [lower, hmap, List.map_id, String.ofList_toList]

theorem isUpperLetter_lowerChar (c : Char) : isUpperLetter (lowerChar c) = false := by
  rcases lowerChar_cases c with ⟨hsame, hsmall⟩ | ⟨hlow, hhigh, hcode⟩
  · rw [hsame, hsmall]
  · simp only [isUpperLetter, Bool.and_eq_false_iff, decide_eq_false_iff_not]
    omega

/-- A character that is no letter has no other case. -/
theorem lowerChar_eq_iff {c d : Char} (hupper : isUpperLetter d = false)
    (hlower : isLowerLetter d = false) : lowerChar c = d ↔ c = d := by
  simp only [isUpperLetter, isLowerLetter, Bool.and_eq_false_iff, decide_eq_false_iff_not]
    at hupper hlower
  rcases lowerChar_cases c with ⟨hsame, -⟩ | ⟨hlow, hhigh, hcode⟩
  · rw [hsame]
  · constructor
    · rintro rfl
      omega
    · rintro rfl
      omega

/-! ## Blanks -/

theorem isBlank_upperChar (c : Char) : isBlank (upperChar c) = isBlank c := by
  rcases upperChar_cases c with hsame | ⟨hlow, hhigh, hcode⟩
  · rw [hsame]
  · rw [isBlank_of_visible (by omega) (by omega), isBlank_of_visible (by omega) (by omega)]

theorem isBlank_lowerChar (c : Char) : isBlank (lowerChar c) = isBlank c := by
  rw [← isBlank_upperChar, upperChar_lowerChar, isBlank_upperChar]

theorem trimmed_upper (s : String) : trimmed (upper s) = upper (trimmed s) := by
  rw [trimmed, upper, String.toList_ofList, trim_map isBlank_upperChar, upper, trimmed,
    String.toList_ofList]

theorem trimmed_lower (s : String) : trimmed (lower s) = lower (trimmed s) := by
  rw [trimmed, lower, String.toList_ofList, trim_map isBlank_lowerChar, lower, trimmed,
    String.toList_ofList]

end SqlDialect.Text
