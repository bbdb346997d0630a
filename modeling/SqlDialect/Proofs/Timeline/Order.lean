import Mathlib.Data.List.Nodup
import Mathlib.Data.List.Pairwise
import SqlDialect.Proofs.Timeline

/-!
# The order of the entries

A timeline is a list, and of several values of one key that exist at an id the one
listed last is taken. This matters only where such values differ. A timeline in
which they never do is *unambiguous* (`Timeline.Unambiguous`); a search by the key
then finds the same in every order of the entries (`Unambiguous.find?_eq`).

It is enough to look at the spans of the entries, two by two (`Dated.Apart`).
-/

namespace SqlDialect

variable {α κ : Type}

/-- If they are of one key, the entries have the same value or one ends before the
other begins. -/
def Dated.Apart (key : α → κ) (e e' : Dated α) : Prop :=
  key e.value = key e'.value →
    e.value = e'.value ∨ e.removed < e'.introduced ∨ e'.removed < e.introduced

instance [DecidableEq α] [DecidableEq κ] (key : α → κ) (e e' : Dated α) :
    Decidable (e.Apart key e') :=
  inferInstanceAs (Decidable (_ → _))

instance (key : α → κ) : Std.Symm (Dated.Apart key) where
  symm e e' h := by
    intro hkey
    rcases h hkey.symm with hsame | hbefore | hafter
    · exact Or.inl hsame.symm
    · exact Or.inr (Or.inr hbefore)
    · exact Or.inr (Or.inl hafter)

namespace Timeline

/-- Values of one key that exist at the same id are equal. -/
def Unambiguous (key : α → κ) (t : Timeline α) : Prop :=
  ∀ target x y, t.Has target x → t.Has target y → key x = key y → x = y

/-- Entries that are apart never meet with different values. -/
theorem unambiguous_of_apart {key : α → κ} {t : Timeline α} (h : t.Pairwise (Dated.Apart key)) :
    t.Unambiguous key := by
  rintro target x y ⟨e, he, hspans, rfl⟩ ⟨e', he', hspans', rfl⟩ hkey
  rcases h.forall_of_forall (fun _ _ _ => Or.inl rfl) he he' hkey with hsame | hbefore | hafter
  · exact hsame
  · exact absurd (Nat.lt_of_le_of_lt hspans.2 (Nat.lt_of_lt_of_le hbefore hspans'.1))
      (Nat.lt_irrefl target)
  · exact absurd (Nat.lt_of_le_of_lt hspans'.2 (Nat.lt_of_lt_of_le hafter hspans.1))
      (Nat.lt_irrefl target)

theorem unambiguous_of_nodup {key : α → κ} {t : Timeline α} (h : (t.map (key ·.value)).Nodup) :
    t.Unambiguous key := by
  rintro target x y ⟨e, he, -, rfl⟩ ⟨e', he', -, rfl⟩ hkey
  rw [List.inj_on_of_nodup_map h he he' hkey]

theorem has_iff_of_perm {t u : Timeline α} (h : t.Perm u) {target : VersionId} {x : α} :
    t.Has target x ↔ u.Has target x := by
  constructor
  · rintro ⟨e, he, hrest⟩
    exact ⟨e, h.mem_iff.mp he, hrest⟩
  · rintro ⟨e, he, hrest⟩
    exact ⟨e, h.mem_iff.mpr he, hrest⟩

theorem Unambiguous.find?_eq_some_iff [DecidableEq κ] {key : α → κ} {t : Timeline α}
    (h : t.Unambiguous key) {target : VersionId} {k : κ} {x : α} :
    (t.activeAt target).reverse.find? (key · == k) = some x ↔ t.Has target x ∧ key x = k := by
  constructor
  · intro hfind
    obtain ⟨hx, hkey⟩ := has_of_find?_reverse_activeAt hfind
    exact ⟨hx, beq_iff_eq.mp hkey⟩
  · rintro ⟨hx, rfl⟩
    cases hfind : (t.activeAt target).reverse.find? (key · == key x) with
    | none => exact absurd (beq_self_eq_true _) (find?_reverse_activeAt_eq_none.mp hfind x hx)
    | some y =>
        obtain ⟨hy, hkey⟩ := has_of_find?_reverse_activeAt hfind
        rw [h target y x hy hx (beq_iff_eq.mp hkey)]

theorem Unambiguous.perm {key : α → κ} {t u : Timeline α} (h : t.Unambiguous key)
    (hperm : t.Perm u) : u.Unambiguous key := by
  intro target x y hx hy
  exact h target x y ((has_iff_of_perm hperm).mpr hx) ((has_iff_of_perm hperm).mpr hy)

/-- In an unambiguous timeline the order of the entries does not decide what is
found. -/
theorem Unambiguous.find?_eq [DecidableEq κ] {key : α → κ} {t u : Timeline α}
    (h : t.Unambiguous key) (hperm : t.Perm u) (target : VersionId) (k : κ) :
    (t.activeAt target).reverse.find? (key · == k)
      = (u.activeAt target).reverse.find? (key · == k) := by
  refine Option.ext fun x => ?_
  rw [h.find?_eq_some_iff, (h.perm hperm).find?_eq_some_iff, has_iff_of_perm hperm]

end Timeline

end SqlDialect
