import SqlDialect.Proofs.Mode.RoundTrip

/-!
# Expansion as a closure

`ModeWord.expand` adds to a word the members of its groups. Bit by bit this is
one statement (`getLsbD_expand`): a bit is there afterwards when it was there
before or a group of the word *brings* it. As no member of a group is a group
(`expansion_of_mem`), expanding brings nothing new a second time, and expansion
is a closure that respects unions, on all words and not only on those without
unknown bits.

A mode keeps a word and its expansion side by side. That the second is always
the expansion of the first, whatever was done to the mode, is
`Mode.full_is_closure`.
-/

namespace SqlDialect

/-- A member of a group is no group. -/
theorem ModeFlag.expansion_of_mem {f g : ModeFlag} (h : f ∈ g.expansion) : f.expansion = [] := by
  have hall : (all.all fun g => g.expansion.all fun f => f.expansion.isEmpty) = true := by decide
  have hmembers := List.all_eq_true.mp hall g g.mem_all
  exact List.isEmpty_iff.mp (List.all_eq_true.mp hmembers f h)

namespace ModeWord

/-! ## Bits of an expansion -/

/-- Every bit of `v` is a bit of `w`. -/
def Within (v w : ModeWord) : Prop := ∀ i, v.getLsbD i = true → w.getLsbD i = true

/-- The bit `i` belongs to a member of a group of the word. -/
def Brings (w : ModeWord) (i : Nat) : Prop :=
  ∃ g f : ModeFlag, w.has g = true ∧ f ∈ g.expansion ∧ f.index = i

theorem ext_bits {v w : ModeWord} (h : ∀ i, v.getLsbD i = true ↔ w.getLsbD i = true) : v = w :=
  BitVec.eq_of_getLsbD_eq fun i _ => Bool.eq_iff_iff.mpr (h i)

theorem getLsbD_insertAll {w : ModeWord} {fs : List ModeFlag} {i : Nat} :
    (insertAll w fs).getLsbD i = true ↔ w.getLsbD i = true ∨ ∃ f ∈ fs, f.index = i := by
  induction fs generalizing w with
  | nil => simp [insertAll]
  | cons g gs ih =>
      have hstep : insertAll w (g :: gs) = insertAll (w ||| g.bit) gs := rfl
      simp only [hstep, ih, BitVec.getLsbD_or, Bool.or_eq_true, ModeFlag.getLsbD_bit,
        decide_eq_true_eq, or_assoc, List.mem_cons, exists_eq_or_imp]

/-- A bit of the expansion was there, or a group brings it. -/
theorem getLsbD_expand {w : ModeWord} {i : Nat} :
    w.expand.getLsbD i = true ↔ w.getLsbD i = true ∨ w.Brings i := by
  rw [expand, getLsbD_insertAll]
  refine or_congr_right ⟨?_, ?_⟩
  · rintro ⟨f, hf, hi⟩
    obtain ⟨g, hg, hmem⟩ := List.mem_flatMap.mp hf
    exact ⟨g, f, mem_flags.mp hg, hmem, hi⟩
  · rintro ⟨g, f, hg, hmem, hi⟩
    exact ⟨f, List.mem_flatMap.mpr ⟨g, mem_flags.mpr hg, hmem⟩, hi⟩

theorem has_expand {w : ModeWord} {f : ModeFlag} :
    w.expand.has f = true ↔ w.has f = true ∨ ∃ g, w.has g = true ∧ f ∈ g.expansion := by
  rw [has, getLsbD_expand]
  refine or_congr_right ⟨?_, ?_⟩
  · rintro ⟨g, f', hg, hmem, hindex⟩
    obtain rfl := ModeFlag.index_inj.mp hindex
    exact ⟨g, hg, hmem⟩
  · rintro ⟨g, hg, hmem⟩
    exact ⟨g, f, hg, hmem, rfl⟩

theorem brings_or {v w : ModeWord} {i : Nat} :
    Brings (v ||| w) i ↔ v.Brings i ∨ w.Brings i := by
  constructor
  · rintro ⟨g, f, hg, hmem, hi⟩
    rcases has_or.mp hg with hv | hw
    · exact Or.inl ⟨g, f, hv, hmem, hi⟩
    · exact Or.inr ⟨g, f, hw, hmem, hi⟩
  · rintro (⟨g, f, hv, hmem, hi⟩ | ⟨g, f, hw, hmem, hi⟩)
    · exact ⟨g, f, has_or.mpr (Or.inl hv), hmem, hi⟩
    · exact ⟨g, f, has_or.mpr (Or.inr hw), hmem, hi⟩

/-- A word that is expanded already has no further groups, so it brings what it
brought before. -/
theorem brings_expand {w : ModeWord} {i : Nat} : w.expand.Brings i ↔ w.Brings i := by
  constructor
  · rintro ⟨g, f, hg, hmem, hi⟩
    rcases has_expand.mp hg with hw | ⟨h, -, hgroup⟩
    · exact ⟨g, f, hw, hmem, hi⟩
    · rw [ModeFlag.expansion_of_mem hgroup] at hmem
      cases hmem
  · rintro ⟨g, f, hg, hmem, hi⟩
    exact ⟨g, f, has_expand.mpr (Or.inl hg), hmem, hi⟩

/-! ## The laws of a closure -/

theorem within_expand (w : ModeWord) : w.Within w.expand :=
  fun _ hi => getLsbD_expand.mpr (Or.inl hi)

theorem expand_expand (w : ModeWord) : w.expand.expand = w.expand := by
  refine ext_bits fun i => ?_
  rw [getLsbD_expand, brings_expand, getLsbD_expand, or_assoc, or_self]

theorem expand_or (v w : ModeWord) : expand (v ||| w) = v.expand ||| w.expand := by
  refine ext_bits fun i => ?_
  rw [getLsbD_expand, brings_or, BitVec.getLsbD_or, BitVec.getLsbD_or, Bool.or_eq_true,
    Bool.or_eq_true, getLsbD_expand, getLsbD_expand, or_or_or_comm]

theorem Within.expand {v w : ModeWord} (h : v.Within w) : v.expand.Within w.expand := by
  have hunion : w = v ||| w := by
    refine ext_bits fun i => ?_
    rw [BitVec.getLsbD_or, Bool.or_eq_true]
    exact ⟨Or.inr, fun hi => hi.elim (h i) id⟩
  intro i hi
  rw [hunion, expand_or, BitVec.getLsbD_or, hi, Bool.true_or]

theorem Known.expand {w : ModeWord} (hw : w.Known) : w.expand.Known := hw.insertAll _

end ModeWord

namespace Mode

/-! ## The headline theorem -/

/-- **What is in effect is the closure of what was given.** Expansion adds
exactly what the groups of a word bring; it is a closure on the words of 64
bits, unknown bits included, and the expansion of a union is the union of the
expansions. In every mode that can be made, the flags in effect are the
expansion of the given ones, neither word has a bit beyond the 36 flags, and
expanding what is in effect once more changes nothing. -/
theorem full_is_closure :
    (∀ (w : ModeWord) i, w.expand.getLsbD i = true ↔ w.getLsbD i = true ∨ w.Brings i)
    ∧ (∀ w : ModeWord, w.Within w.expand)
    ∧ (∀ v w : ModeWord, v.Within w → v.expand.Within w.expand)
    ∧ (∀ w : ModeWord, w.expand.expand = w.expand)
    ∧ (∀ v w : ModeWord, ModeWord.expand (v ||| w) = v.expand ||| w.expand)
    ∧ (∀ m, Reachable m →
      m.full = m.value.expand
      ∧ m.value.toNat < 2 ^ 36
      ∧ m.full.toNat < 2 ^ 36
      ∧ m.full.expand = m.full) := by
  refine ⟨fun w i => ModeWord.getLsbD_expand, ModeWord.within_expand,
    fun v w => ModeWord.Within.expand, ModeWord.expand_expand, ModeWord.expand_or, fun m hm => ?_⟩
  have hformed := hm.formed
  refine ⟨hformed.full_eq, hformed.known, ?_, ?_⟩
  · rw [hformed.full_eq]
    exact hformed.known.expand
  · rw [hformed.full_eq, ModeWord.expand_expand]

/-- Without the group `ANSI`, `ORACLE` still gives the quotes, and what only
`ANSI` stood for is gone. -/
theorem full_is_closure_erased_group :
    Reachable (((ofFlag .oracle).insert .ansi).erase .ansi)
    ∧ (((ofFlag .oracle).insert .ansi).erase .ansi).full = ModeWord.expand (ModeFlag.bit .oracle)
    ∧ (((ofFlag .oracle).insert .ansi).erase .ansi).contains .ansiQuotes = true
    ∧ (((ofFlag .oracle).insert .ansi).erase .ansi).contains .realAsFloat = false := by
  have hreach : Reachable (((ofFlag .oracle).insert .ansi).erase .ansi) :=
    .erase _ (.insert _ (.ofFlag _))
  obtain ⟨-, -, -, -, -, hmode⟩ := full_is_closure
  obtain ⟨hfull, -, -, -⟩ := hmode _ hreach
  have hvalue : (((ofFlag .oracle).insert .ansi).erase .ansi).value = ModeFlag.bit .oracle := by
    decide +kernel
  exact ⟨hreach, by rw [hfull, hvalue], by decide +kernel, by decide +kernel⟩

end Mode

end SqlDialect
