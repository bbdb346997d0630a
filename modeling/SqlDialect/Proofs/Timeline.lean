import SqlDialect.Timeline

/-!
# What a timeline says at an id

`Timeline.activeAt` lists the values that exist at an id. Two readings of that
list are all that is ever needed of it: that a value is on it (`Has`), and that
a value is the last one of some kind on it (`LastAt`). Both are said here in
terms of the entries and their spans alone.
-/

namespace SqlDialect

variable {α : Type}

/-- The entry's span contains the id `target`. -/
def Dated.Spans (e : Dated α) (target : VersionId) : Prop :=
  e.introduced ≤ target ∧ target ≤ e.removed

theorem Dated.activeAt_iff {e : Dated α} {target : VersionId} :
    e.activeAt target = true ↔ e.Spans target := by
  simp [Dated.activeAt, Dated.Spans]

namespace Timeline

/-- The value `x` exists at the id `target`. -/
def Has (t : Timeline α) (target : VersionId) (x : α) : Prop :=
  ∃ e ∈ t, e.Spans target ∧ e.value = x

/-- Of the values with the property `P` that exist at the id `target`, the
timeline lists `x` last. -/
def LastAt (t : Timeline α) (target : VersionId) (P : α → Prop) (x : α) : Prop :=
  ∃ front e back, t = front ++ e :: back ∧ e.Spans target ∧ e.value = x ∧ P x ∧
    ∀ e' ∈ back, e'.Spans target → ¬P e'.value

theorem mem_activeAt {t : Timeline α} {target : VersionId} {x : α} :
    x ∈ t.activeAt target ↔ t.Has target x := by
  simp only [activeAt, Has, List.mem_map, List.mem_filter, Dated.activeAt_iff, and_assoc]

theorem activeAt_sublist (t : Timeline α) (target : VersionId) :
    (t.activeAt target).Sublist (t.map (·.value)) :=
  List.filter_sublist.map _

/-- Searching the existing values from the end finds the one listed last. -/
theorem find?_reverse_activeAt {p : α → Bool} {t : Timeline α} {target : VersionId} {x : α} :
    (t.activeAt target).reverse.find? p = some x ↔ t.LastAt target (p · = true) x := by
  have hsearch : (t.activeAt target).reverse.find? p
      = (t.reverse.find? fun e => e.activeAt target && p e.value).map (·.value) := by
    rw [activeAt, ← List.map_reverse, ← List.filter_reverse, List.find?_map, List.find?_filter]
    simp
  rw [hsearch, Option.map_eq_some_iff]
  constructor
  · rintro ⟨e, he, rfl⟩
    obtain ⟨hhit, front, back, hsplit, hmiss⟩ := List.find?_eq_some_iff_append.mp he
    rw [Bool.and_eq_true, Dated.activeAt_iff] at hhit
    refine ⟨back.reverse, e, front.reverse, ?_, hhit.1, rfl, hhit.2, ?_⟩
    · have := congrArg List.reverse hsplit
      simpa using this
    · intro e' he' hspans hp
      have := hmiss e' (List.mem_reverse.mp he')
      rw [Dated.activeAt_iff.mpr hspans, hp] at this
      cases this
  · rintro ⟨front, e, back, rfl, hspans, rfl, hp, hlast⟩
    refine ⟨e, List.find?_eq_some_iff_append.mpr ⟨?_, back.reverse, front.reverse, by simp, ?_⟩, rfl⟩
    · rw [Bool.and_eq_true, Dated.activeAt_iff]
      exact ⟨hspans, hp⟩
    · intro e' he'
      rw [Bool.not_eq_true', Bool.and_eq_false_iff]
      by_cases hs : e'.Spans target
      · exact Or.inr (Bool.eq_false_iff.mpr (hlast e' (List.mem_reverse.mp he') hs))
      · exact Or.inl (Bool.eq_false_iff.mpr fun hactive => hs (Dated.activeAt_iff.mp hactive))

theorem has_of_find?_reverse_activeAt {p : α → Bool} {t : Timeline α} {target : VersionId} {x : α}
    (h : (t.activeAt target).reverse.find? p = some x) : t.Has target x ∧ p x = true :=
  ⟨mem_activeAt.mp (List.mem_reverse.mp (List.mem_of_find?_eq_some h)), List.find?_some h⟩

theorem find?_reverse_activeAt_eq_none {p : α → Bool} {t : Timeline α} {target : VersionId} :
    (t.activeAt target).reverse.find? p = none ↔ ∀ x, t.Has target x → ¬p x = true := by
  simp only [List.find?_eq_none, List.mem_reverse, mem_activeAt]

end Timeline

end SqlDialect
