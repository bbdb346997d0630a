import Mathlib.Algebra.Group.Nat.Defs
import SqlDialect.Mode.Basic

/-!
# Mode words as sets of flags

`ModeWord.has` is the only view of a word that proofs need: one lemma for each
operation says which flags it has afterwards. A word is `Known` when it has no
bit beyond those of the flags; such a word is determined by its flags
(`Known.ext`), so that listing them loses nothing (`insertAll_flags`).
-/

namespace SqlDialect

namespace ModeFlag

/-! ## The numbering of the flags -/

theorem getElem?_index (f : ModeFlag) : all[f.index]? = some f := by cases f <;> rfl

theorem mem_all (f : ModeFlag) : f ∈ all := List.mem_of_getElem? f.getElem?_index

theorem index_lt (f : ModeFlag) : f.index < all.length :=
  (List.getElem?_eq_some_iff.mp f.getElem?_index).1

theorem index_inj {f g : ModeFlag} : f.index = g.index ↔ f = g := by
  refine ⟨fun h => ?_, fun h => h ▸ rfl⟩
  have hf := f.getElem?_index
  rw [h, g.getElem?_index] at hf
  exact (Option.some.inj hf).symm

theorem exists_index {i : Nat} (h : i < all.length) : ∃ f : ModeFlag, f.index = i := by
  have hnumbers : all.map index = List.range all.length := rfl
  have hi : i ∈ all.map index := hnumbers ▸ List.mem_range.mpr h
  obtain ⟨f, -, hf⟩ := List.mem_map.mp hi
  exact ⟨f, hf⟩

theorem getLsbD_bit (f : ModeFlag) (i : Nat) : f.bit.getLsbD i = decide (f.index = i) := by
  have hlt : f.index < 64 := Nat.lt_trans f.index_lt (by decide)
  simp [bit, BitVec.getLsbD_twoPow, hlt]

end ModeFlag

namespace ModeWord

/-! ## Which flags a word has -/

@[simp]
theorem has_zero (f : ModeFlag) : ¬ has 0#64 f = true := by simp [has]

@[simp]
theorem has_bit {f g : ModeFlag} : has f.bit g = true ↔ f = g := by
  simp [has, ModeFlag.getLsbD_bit, ModeFlag.index_inj]

@[simp]
theorem has_or {v w : ModeWord} {f : ModeFlag} :
    has (v ||| w) f = true ↔ v.has f = true ∨ w.has f = true := by
  simp [has]

@[simp]
theorem has_insertAll {w : ModeWord} {fs : List ModeFlag} {f : ModeFlag} :
    (insertAll w fs).has f = true ↔ w.has f = true ∨ f ∈ fs := by
  induction fs generalizing w with
  | nil => simp [insertAll]
  | cons g gs ih =>
      have hstep : insertAll w (g :: gs) = insertAll (w ||| g.bit) gs := rfl
      rw [hstep, ih, has_or, has_bit, List.mem_cons, or_assoc, @eq_comm _ g f]

@[simp]
theorem mem_flags {w : ModeWord} {f : ModeFlag} : f ∈ w.flags ↔ w.has f = true := by
  simp [flags, ModeFlag.mem_all]

/-! ## Words without unknown bits -/

/-- Every bit of the word belongs to a flag. -/
def Known (w : ModeWord) : Prop := w.toNat < 2 ^ ModeFlag.all.length

theorem known_iff {w : ModeWord} :
    w.Known ↔ ∀ i, ModeFlag.all.length ≤ i → w.getLsbD i = false := by
  constructor
  · intro h i hi
    rw [← BitVec.testBit_toNat]
    exact Nat.testBit_lt_two_pow (Nat.lt_of_lt_of_le h (Nat.pow_le_pow_right (by decide) hi))
  · intro h
    refine Nat.lt_pow_two_of_testBit _ fun i hi => ?_
    rw [BitVec.testBit_toNat]
    exact h i hi

theorem known_zero : Known 0 := Nat.two_pow_pos _

theorem known_bit (f : ModeFlag) : Known f.bit := by
  refine known_iff.mpr fun i hi => ?_
  rw [ModeFlag.getLsbD_bit]
  exact decide_eq_false (Nat.ne_of_lt (Nat.lt_of_lt_of_le f.index_lt hi))

theorem Known.or {v w : ModeWord} (hv : v.Known) (hw : w.Known) : Known (v ||| w) := by
  refine known_iff.mpr fun i hi => ?_
  rw [BitVec.getLsbD_or, known_iff.mp hv i hi, known_iff.mp hw i hi, Bool.or_false]

theorem Known.and {v : ModeWord} (hv : v.Known) (w : ModeWord) : Known (v &&& w) := by
  refine known_iff.mpr fun i hi => ?_
  rw [BitVec.getLsbD_and, known_iff.mp hv i hi, Bool.false_and]

theorem Known.insertAll {w : ModeWord} (hw : w.Known) (fs : List ModeFlag) :
    (w.insertAll fs).Known := by
  induction fs generalizing w with
  | nil => exact hw
  | cons f fs ih => exact ih (hw.or (known_bit f))

/-- A known word is the set of its flags. -/
theorem Known.ext {v w : ModeWord} (hv : v.Known) (hw : w.Known)
    (h : ∀ f, v.has f = true ↔ w.has f = true) : v = w := by
  refine BitVec.eq_of_getLsbD_eq fun i _ => ?_
  by_cases hi : i < ModeFlag.all.length
  · obtain ⟨f, rfl⟩ := ModeFlag.exists_index hi
    exact Bool.eq_iff_iff.mpr (h f)
  · have hge := Nat.le_of_not_lt hi
    rw [known_iff.mp hv i hge, known_iff.mp hw i hge]

theorem Known.insertAll_flags {w : ModeWord} (hw : w.Known) : ModeWord.insertAll 0 w.flags = w := by
  refine (known_zero.insertAll _).ext hw fun f => ?_
  simp

end ModeWord

end SqlDialect
