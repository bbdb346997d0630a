import SqlDialect.Proofs.Timeline

/-!
# What stays once it has come

An entry of a timeline may end where another entry of the same key begins. A
timeline is *unbroken* when this is so for every entry that ends at all
(`Timeline.Unbroken`), a condition on the entries and their spans alone. What
exists at some id then exists at every later one, perhaps as another value of the
same key (`Timeline.Unbroken.has`).
-/

namespace SqlDialect

variable {α κ : Type}

def Dated.Covers {β : Type} (d : Dated β) (e : Dated α) : Prop :=
  d.introduced ≤ e.introduced ∧ e.removed ≤ d.removed

instance {β : Type} (d : Dated β) (e : Dated α) : Decidable (d.Covers e) :=
  inferInstanceAs (Decidable (_ ∧ _))

theorem Dated.Covers.spans {β : Type} {d : Dated β} {e : Dated α} (h : d.Covers e)
    {target : VersionId} (he : e.Spans target) : d.Spans target :=
  ⟨Nat.le_trans h.1 he.1, Nat.le_trans he.2 h.2⟩

namespace Timeline

/-- Where an entry ends, another one of the same key takes over and ends later. -/
def Unbroken (key : α → κ) (t : Timeline α) : Prop :=
  ∀ e ∈ t, VersionId.greatest ≤ e.removed ∨
    ∃ e' ∈ t, key e'.value = key e.value ∧ e'.introduced ≤ e.removed + 1 ∧ e.removed < e'.removed

instance [DecidableEq κ] (key : α → κ) (t : Timeline α) : Decidable (t.Unbroken key) :=
  inferInstanceAs (Decidable (∀ e ∈ t, _ ∨ ∃ e' ∈ t, _))

/-- From the start of an entry on, every id has an entry of its key. -/
theorem Unbroken.exists_spans {key : α → κ} {t : Timeline α} (h : t.Unbroken key)
    {target : VersionId} (hend : target ≤ VersionId.greatest) {e : Dated α} (he : e ∈ t)
    (hstart : e.introduced ≤ target) :
    ∃ e' ∈ t, key e'.value = key e.value ∧ e'.Spans target := by
  -- each successor ends later, so the distance that is left to `target` shrinks
  induction hn : target - e.removed using Nat.strongRecOn generalizing e with
  | ind n ih =>
      by_cases hspans : target ≤ e.removed
      · exact ⟨e, he, rfl, hstart, hspans⟩
      · have hended : e.removed < target := Nat.lt_of_not_le hspans
        rcases h e he with hlasting | ⟨e', he', hkey, hnext, hlater⟩
        · exact absurd (Nat.le_trans hend hlasting) hspans
        · have hcloser : target - e'.removed < n := hn ▸ Nat.sub_lt_sub_left hended hlater
          obtain ⟨e'', he'', hkey', hspans'⟩ :=
            ih _ hcloser he' (Nat.le_trans hnext hended) rfl
          exact ⟨e'', he'', hkey'.trans hkey, hspans'⟩

/-- What exists in an unbroken timeline exists later too, up to its key. -/
theorem Unbroken.has {key : α → κ} {t : Timeline α} (h : t.Unbroken key) {a b : VersionId}
    (hle : a ≤ b) (hend : b ≤ VersionId.greatest) {x : α} (hx : t.Has a x) :
    ∃ y, t.Has b y ∧ key y = key x := by
  obtain ⟨e, he, hspans, rfl⟩ := hx
  obtain ⟨e', he', hkey, hspans'⟩ := h.exists_spans hend he (Nat.le_trans hspans.1 hle)
  exact ⟨e'.value, ⟨e', he', hspans', rfl⟩, hkey⟩

end Timeline

end SqlDialect
