import Mathlib.Algebra.Group.Nat.Defs
import SqlDialect.Proofs.Text.Split
import SqlDialect.Text.Ascii

/-!
# Numbers in digits

`Text.number?` reads a number of 32 bits. What it accepts is said here by the
characters alone (`IsNumber`): a run of digits, not empty, whose value in base ten
is small enough. A number as it is printed is such a run (`isNumber_toString`).
-/

namespace SqlDialect.Text

/-- The characters are a run of the digits `0`-`9` that writes `n` in base ten,
zeros in front allowed, and `n` is a number of 32 bits. -/
structure IsNumber (cs : List Char) (n : Nat) : Prop where
  ne_nil : cs ≠ []
  digits : ∀ c ∈ cs, '0' ≤ c ∧ c ≤ '9'
  value : Nat.ofDigitChars 10 cs 0 = n
  bound : n < 2 ^ 32

theorem isDigit_iff {c : Char} : isDigit c = true ↔ '0' ≤ c ∧ c ≤ '9' := by
  simp only [isDigit, Bool.and_eq_true, decide_eq_true_eq, Char.le_def, UInt32.le_iff_toNat_le]
  rfl

theorem decimalValue_eq (cs : List Char) : decimalValue cs = Nat.ofDigitChars 10 cs 0 := by
  simp only [decimalValue, Nat.ofDigitChars, Nat.mul_comm 10]
  rfl

theorem decimal?_eq_some_iff {cs : List Char} {n : Nat} :
    decimal? cs = some n ↔
      (cs ≠ [] ∧ ∀ c ∈ cs, '0' ≤ c ∧ c ≤ '9') ∧ Nat.ofDigitChars 10 cs 0 = n := by
  have hrun : (!cs.isEmpty && cs.all isDigit) = true ↔ cs ≠ [] ∧ ∀ c ∈ cs, '0' ≤ c ∧ c ≤ '9' := by
    simp [isDigit_iff]
  rw [decimal?, decimalValue_eq, ← hrun, Option.ite_none_right_eq_some, Option.some.injEq]

/-- A text is read as a number exactly when it writes that number. -/
theorem number?_eq_some_iff {cs : List Char} {n : Nat} : number? cs = some n ↔ IsNumber cs n := by
  rw [number?, Option.filter_eq_some_iff, decimal?_eq_some_iff, decide_eq_true_eq]
  constructor
  · rintro ⟨⟨⟨hne, hdigits⟩, hvalue⟩, hbound⟩
    exact ⟨hne, hdigits, hvalue, hbound⟩
  · rintro ⟨hne, hdigits, hvalue, hbound⟩
    exact ⟨⟨⟨hne, hdigits⟩, hvalue⟩, hbound⟩

/-! ## Numbers as they are printed -/

theorem toList_toString (n : Nat) : (toString n).toList = Nat.toDigits 10 n := Nat.toList_repr

theorem digits_toString {n : Nat} : ∀ c ∈ (toString n).toList, '0' ≤ c ∧ c ≤ '9' := by
  intro c hc
  have hmem : c ∈ Nat.toDigits 10 n := toList_toString n ▸ hc
  have hdigit := Nat.isDigit_of_mem_toDigits (by decide) (by decide) hmem
  simpa [Char.isDigit, Char.le_def] using hdigit

theorem isBlank_toString (n : Nat) : ∀ c ∈ (toString n).toList, isBlank c = false := by
  intro c hc
  have hdigit := isDigit_iff.mpr (digits_toString c hc)
  rw [isDigit, Bool.and_eq_true, decide_eq_true_eq, decide_eq_true_eq] at hdigit
  exact isBlank_of_visible (by omega) (by omega)

theorem toString_ne_nil (n : Nat) : (toString n).toList ≠ [] := by
  rw [toList_toString]
  exact Nat.toDigits_ne_nil

theorem ofDigitChars_toString (n : Nat) : Nat.ofDigitChars 10 (toString n).toList 0 = n := by
  rw [toList_toString]
  exact Nat.ofDigitChars_toDigits (by decide) (by decide)

theorem toString_toList_inj {m n : Nat} : (toString m).toList = (toString n).toList ↔ m = n := by
  refine ⟨fun h => ?_, fun h => h ▸ rfl⟩
  rw [← ofDigitChars_toString m, h, ofDigitChars_toString]

theorem isNumber_toString {n : Nat} (h : n < 2 ^ 32) : IsNumber (toString n).toList n :=
  ⟨toString_ne_nil n, digits_toString, ofDigitChars_toString n, h⟩

end SqlDialect.Text
