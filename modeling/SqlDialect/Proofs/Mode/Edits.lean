import SqlDialect.Proofs.Mode.Expansion

/-!
# Edits of a mode

A mode is edited by inserting and erasing single flags. Every edit goes by the given
flags and works out anew what is in effect, so a history of edits leaves nothing
behind but its last word on each flag (`mem_flags_edited`): what one edit does to the
given flags is `Edit.mem_flags_apply`, and the history follows by induction.

What is in effect after that is what the given flags give, each of them itself and its
members (`Formed.contains_iff`). Many groups share members. Erasing a group therefore
withdraws only what no other given flag gives, and a member that is erased stays in
effect as long as a group with it is given.
-/

namespace SqlDialect

/-- The flag `g` is in effect where `f` is given: it is `f`, or a member of the group
`f`. -/
def ModeFlag.Gives (f g : ModeFlag) : Prop := g = f ∨ g ∈ f.expansion

namespace ModeWord

theorem pairwise_flags (w : ModeWord) : w.flags.Pairwise fun f g => f.index < g.index := by
  have hnumbers : ModeFlag.all.map ModeFlag.index = List.range ModeFlag.all.length := rfl
  have hall : ModeFlag.all.Pairwise fun f g => f.index < g.index :=
    List.pairwise_map.mp (hnumbers ▸ List.pairwise_lt_range)
  exact hall.filter _

theorem has_and_not_bit {w : ModeWord} {f g : ModeFlag} :
    has (w &&& ~~~f.bit) g = true ↔ w.has g = true ∧ f ≠ g := by
  have hlt : g.index < 64 := Nat.lt_trans g.index_lt (by decide)
  rw [has, BitVec.getLsbD_and, BitVec.getLsbD_not, ModeFlag.getLsbD_bit, ← has]
  simp [hlt, ModeFlag.index_inj]

end ModeWord

namespace Mode

/-! ## One edit -/

inductive Edit where
  | insert (f : ModeFlag)
  | erase (f : ModeFlag)
deriving Repr, DecidableEq

namespace Edit

def flag : Edit → ModeFlag
  | .insert f | .erase f => f

def apply (m : Mode) : Edit → Mode
  | .insert f => m.insert f
  | .erase f => m.erase f

end Edit

theorem mem_flags_insert {m : Mode} {f g : ModeFlag} :
    g ∈ (m.insert f).flags ↔ f = g ∨ g ∈ m.flags := by
  rw [flags, flags, insert, ofWord, ModeWord.mem_flags, ModeWord.mem_flags, ModeWord.has_or,
    ModeWord.has_bit, or_comm]

theorem mem_flags_erase {m : Mode} {f g : ModeFlag} :
    g ∈ (m.erase f).flags ↔ g ∈ m.flags ∧ f ≠ g := by
  rw [flags, flags, erase, ofWord, ModeWord.mem_flags, ModeWord.mem_flags,
    ModeWord.has_and_not_bit]

/-- After an edit a flag is given if it was inserted, or was given and is not the one
that was edited. -/
theorem Edit.mem_flags_apply {m : Mode} {e : Edit} {g : ModeFlag} :
    g ∈ (e.apply m).flags ↔ e = .insert g ∨ g ∈ m.flags ∧ e.flag ≠ g := by
  cases e with
  | insert f =>
      rw [apply, mem_flags_insert, Edit.insert.injEq, flag]
      by_cases hfg : f = g
      · simp [hfg]
      · simp [hfg]
  | erase f => simp [apply, mem_flags_erase, flag]

/-! ## A history of edits -/

def edited (m : Mode) (edits : List Edit) : Mode := edits.foldl Edit.apply m

/-- The last edit of the flag inserts it. -/
def LastInserted (edits : List Edit) (f : ModeFlag) : Prop :=
  ∃ before after, edits = before ++ .insert f :: after ∧ ∀ e ∈ after, e.flag ≠ f

/-- No edit is one of the flag. -/
def Unedited (edits : List Edit) (f : ModeFlag) : Prop := ∀ e ∈ edits, e.flag ≠ f

theorem lastInserted_cons {e : Edit} {edits : List Edit} {f : ModeFlag} :
    LastInserted (e :: edits) f ↔ LastInserted edits f ∨ e = .insert f ∧ Unedited edits f := by
  constructor
  · rintro ⟨before, after, hsplit, hafter⟩
    cases before with
    | nil =>
        cases hsplit
        exact Or.inr ⟨rfl, hafter⟩
    | cons first before =>
        cases hsplit
        exact Or.inl ⟨before, after, rfl, hafter⟩
  · rintro (⟨before, after, rfl, hafter⟩ | ⟨rfl, hrest⟩)
    · exact ⟨e :: before, after, rfl, hafter⟩
    · exact ⟨[], edits, rfl, hrest⟩

/-- The last edit of a flag decides whether it is given; without one it is as it was. -/
theorem mem_flags_edited {m : Mode} {edits : List Edit} {f : ModeFlag} :
    f ∈ (m.edited edits).flags ↔ LastInserted edits f ∨ f ∈ m.flags ∧ Unedited edits f := by
  induction edits generalizing m with
  | nil => simp [edited, LastInserted, Unedited]
  | cons e edits ih =>
      have hstep : m.edited (e :: edits) = (e.apply m).edited edits := rfl
      have hunedited : Unedited (e :: edits) f ↔ e.flag ≠ f ∧ Unedited edits f :=
        List.forall_mem_cons
      rw [hstep, ih, Edit.mem_flags_apply, lastInserted_cons, hunedited, or_and_right, ← or_assoc,
        and_assoc]

theorem Reachable.edited {m : Mode} (h : Reachable m) (edits : List Edit) :
    Reachable (m.edited edits) := by
  induction edits generalizing m with
  | nil => exact h
  | cons e edits ih =>
      cases e with
      | insert f => exact ih (h.insert f)
      | erase f => exact ih (h.erase f)

/-! ## What is in effect -/

theorem mem_effectiveFlags {m : Mode} {g : ModeFlag} :
    g ∈ m.effectiveFlags ↔ m.contains g = true :=
  ModeWord.mem_flags

theorem Formed.contains_iff {m : Mode} (h : m.Formed) {g : ModeFlag} :
    m.contains g = true ↔ ∃ f ∈ m.flags, f.Gives g := by
  have hmem : ∀ {f : ModeFlag}, f ∈ m.flags ↔ m.value.has f = true := ModeWord.mem_flags
  rw [contains, h.full_eq, ModeWord.has_expand]
  constructor
  · rintro (hgiven | ⟨f, hf, hmember⟩)
    · exact ⟨g, hmem.mpr hgiven, Or.inl rfl⟩
    · exact ⟨f, hmem.mpr hf, Or.inr hmember⟩
  · rintro ⟨f, hf, rfl | hmember⟩
    · exact Or.inl (hmem.mp hf)
    · exact Or.inr ⟨f, hmem.mp hf, hmember⟩

theorem Formed.mem_effectiveFlags_iff {m : Mode} (h : m.Formed) {g : ModeFlag} :
    g ∈ m.effectiveFlags ↔ g ∈ m.flags ∨ ∃ f ∈ m.flags, g ∈ f.expansion := by
  simp only [mem_effectiveFlags, h.contains_iff, ModeFlag.Gives, and_or_left, exists_or,
    exists_eq_right']

theorem Formed.contains_erase_iff {m : Mode} (h : m.Formed) {f g : ModeFlag} :
    (m.erase f).contains g = true ↔ ∃ k ∈ m.flags, f ≠ k ∧ k.Gives g := by
  have herased : (m.erase f).Formed := formed_ofWord (h.known.and _)
  simp only [herased.contains_iff, mem_flags_erase, and_assoc]

/-- What is withdrawn when a given flag is erased. -/
theorem Formed.withdrawn_iff {m : Mode} (h : m.Formed) {f : ModeFlag} (hf : f ∈ m.flags)
    {g : ModeFlag} :
    m.contains g = true ∧ (m.erase f).contains g = false ↔
      f.Gives g ∧ ∀ k ∈ m.flags, f ≠ k → ¬k.Gives g := by
  rw [← Bool.not_eq_true, h.contains_iff, h.contains_erase_iff]
  constructor
  · rintro ⟨⟨k, hk, hgives⟩, hnone⟩
    have hothers : ∀ k ∈ m.flags, f ≠ k → ¬k.Gives g := fun k hk hne hgives =>
      hnone ⟨k, hk, hne, hgives⟩
    by_cases hfk : f = k
    · exact ⟨hfk ▸ hgives, hothers⟩
    · exact absurd hgives (hothers k hk hfk)
  · rintro ⟨hgives, hothers⟩
    refine ⟨⟨f, hf, hgives⟩, ?_⟩
    rintro ⟨k, hk, hne, hkgives⟩
    exact hothers k hk hne hkgives

/-- A member that is erased stays in effect while a group with it is given. -/
theorem Formed.contains_erase_member {m : Mode} (h : m.Formed) {f g : ModeFlag} (hf : f ∈ m.flags)
    (hg : g ∈ f.expansion) : (m.erase g).contains g = true := by
  have hne : g ≠ f := by
    rintro rfl
    rw [ModeFlag.expansion_of_mem hg] at hg
    cases hg
  exact h.contains_erase_iff.mpr ⟨f, hf, hne, Or.inr hg⟩

/-! ## The headline theorem -/

/-- **The last word on each flag.** The given flags are those whose last edit inserted
them and those that were given at the start and never edited; in effect are these and
the members of given groups. So erasing a flag withdraws only what no other given flag
gives, and a member that is erased stays in effect while a group with it is given. -/
theorem edits_last_word {m₀ m : Mode} {edits : List Edit} (hm₀ : Reachable m₀)
    (hm : m₀.edited edits = m) :
    (m.flags.Pairwise fun f g => f.index < g.index)
    ∧ (∀ f, f ∈ m.flags ↔ LastInserted edits f ∨ f ∈ m₀.flags ∧ Unedited edits f)
    ∧ (∀ g, (m.contains g = true ↔ g ∈ m.effectiveFlags)
      ∧ (g ∈ m.effectiveFlags ↔ g ∈ m.flags ∨ ∃ h ∈ m.flags, g ∈ h.expansion))
    ∧ (∀ h ∈ m.flags, ∀ g, m.contains g = true ∧ (m.erase h).contains g = false ↔
      h.Gives g ∧ ∀ k ∈ m.flags, h ≠ k → ¬k.Gives g)
    ∧ (∀ h ∈ m.flags, ∀ g ∈ h.expansion, (m.erase g).contains g = true) := by
  subst hm
  have hformed := (hm₀.edited edits).formed
  refine ⟨ModeWord.pairwise_flags _, fun f => mem_flags_edited, ?_, ?_, ?_⟩
  · intro g
    exact ⟨mem_effectiveFlags.symm, hformed.mem_effectiveFlags_iff⟩
  · intro h hh g
    exact hformed.withdrawn_iff hh
  · intro h hh g hg
    exact hformed.contains_erase_member hh hg

/-- `ORACLE` is erased, and what it alone gave is withdrawn; the quotes are erased too,
but `ANSI` keeps them in effect. -/
theorem edits_last_word_shared_members :
    Reachable (ofFlags [.oracle, .traditional])
    ∧ ∃ m, (ofFlags [.oracle, .traditional]).edited
        [.erase .ansi, .insert .ansi, .erase .oracle, .erase .ansiQuotes] = m
      ∧ m.flags = [.ansi, .traditional]
      ∧ m.contains .ansiQuotes = true
      ∧ m.contains .noAutoCreateUser = true
      ∧ m.contains .noKeyOptions = false := by
  have hreach : Reachable (ofFlags [.oracle, .traditional]) := .ofFlags _
  obtain ⟨m, hm⟩ : ∃ m, (ofFlags [.oracle, .traditional]).edited
      [.erase .ansi, .insert .ansi, .erase .oracle, .erase .ansiQuotes] = m := ⟨_, rfl⟩
  obtain ⟨-, -, heffect, -, -⟩ := edits_last_word hreach hm
  have hflags : m.flags = [.ansi, .traditional] := by
    rw [← hm]
    decide +kernel
  have hcontains : ∀ g, m.contains g = true ↔
      g ∈ [ModeFlag.ansi, .traditional] ∨ ∃ h ∈ [ModeFlag.ansi, .traditional], g ∈ h.expansion := by
    intro g
    rw [(heffect g).1, (heffect g).2, hflags]
  refine ⟨hreach, m, hm, hflags, (hcontains _).mpr (by decide), (hcontains _).mpr (by decide), ?_⟩
  rw [← Bool.not_eq_true, hcontains]
  decide

end Mode

end SqlDialect
