import Mathlib.Logic.Relation
import SqlDialect.Proofs.Timeline

/-!
# Timelines taken apart and put together

How a timeline is cut into entries and into parts makes no difference to what it lists at
an id. Both ends of a span are inclusive, so an entry that is split in two has to go on at
the id after the one where its first part ends: then no id is lost at the seam
(`Dated.spans_iff_parts`) and none is in both parts (`Dated.not_spans_parts`), and the value
is listed as often as before and in the same place (`Timeline.Split.activeAt_eq`).

What is dropped by its value is dropped from the list of values
(`Timeline.activeAt_filter_value`). Entries whose value is not listed at an id can
therefore be dropped, also when the timeline has several entries of one value
(`Timeline.activeAt_listed`).
-/

namespace SqlDialect

variable {α : Type}

/-! ## Parts of an entry -/

namespace Dated

/-- The part of the entry up to the id `m`. -/
def endingAt (e : Dated α) (m : VersionId) : Dated α := { e with removed := m }

/-- The part of the entry after the id `m`. -/
def startingAfter (e : Dated α) (m : VersionId) : Dated α := { e with introduced := m + 1 }

/-- No id is lost at the seam, and none is gained. -/
theorem spans_iff_parts {e : Dated α} {m : VersionId} (hlo : e.introduced ≤ m)
    (hhi : m < e.removed) {target : VersionId} :
    e.Spans target ↔ (e.endingAt m).Spans target ∨ (e.startingAfter m).Spans target := by
  constructor
  · intro h
    rcases Nat.lt_or_ge m target with hafter | hbefore
    · exact Or.inr ⟨hafter, h.2⟩
    · exact Or.inl ⟨h.1, hbefore⟩
  · intro h
    rcases h with hfirst | hsecond
    · exact ⟨hfirst.1, Nat.le_trans hfirst.2 (Nat.le_of_lt hhi)⟩
    · exact ⟨Nat.le_trans hlo (Nat.le_of_succ_le hsecond.1), hsecond.2⟩

theorem not_spans_parts {e : Dated α} {m target : VersionId}
    (hfirst : (e.endingAt m).Spans target) : ¬(e.startingAfter m).Spans target := by
  intro hsecond
  exact Nat.not_succ_le_self m (Nat.le_trans hsecond.1 hfirst.2)

end Dated

namespace Timeline

/-! ## Reading part by part -/

theorem activeAt_append (t u : Timeline α) (target : VersionId) :
    activeAt (t ++ u) target = t.activeAt target ++ u.activeAt target := by
  simp only [activeAt, List.filter_append, List.map_append]

theorem activeAt_cons_of_spans {e : Dated α} {target : VersionId} (h : e.Spans target)
    (t : Timeline α) : activeAt (e :: t) target = e.value :: t.activeAt target := by
  have hactive : e.activeAt target = true := Dated.activeAt_iff.mpr h
  simp only [activeAt, List.filter_cons, hactive, if_true, List.map_cons]

theorem activeAt_cons_of_not_spans {e : Dated α} {target : VersionId} (h : ¬e.Spans target)
    (t : Timeline α) : activeAt (e :: t) target = t.activeAt target := by
  have hactive : e.activeAt target = false :=
    Bool.eq_false_iff.mpr fun hactive => h (Dated.activeAt_iff.mp hactive)
  simp only [activeAt, List.filter_cons, hactive, Bool.false_eq_true, if_false]

/-! ## Splitting entries -/

/-- The parts of an entry at the head of a timeline are read like the entry. -/
theorem activeAt_parts {e : Dated α} {m : VersionId} (hlo : e.introduced ≤ m) (hhi : m < e.removed)
    (t : Timeline α) (target : VersionId) :
    activeAt (e.endingAt m :: e.startingAfter m :: t) target = activeAt (e :: t) target := by
  have hparts : e.Spans target ↔ _ ∨ _ := Dated.spans_iff_parts hlo hhi
  by_cases hfirst : (e.endingAt m).Spans target
  · rw [activeAt_cons_of_spans hfirst, activeAt_cons_of_not_spans (Dated.not_spans_parts hfirst),
      activeAt_cons_of_spans (hparts.mpr (Or.inl hfirst))]
    rfl
  · rw [activeAt_cons_of_not_spans hfirst]
    by_cases hsecond : (e.startingAfter m).Spans target
    · rw [activeAt_cons_of_spans hsecond, activeAt_cons_of_spans (hparts.mpr (Or.inr hsecond))]
      rfl
    · rw [activeAt_cons_of_not_spans hsecond, activeAt_cons_of_not_spans]
      intro h
      exact (hparts.mp h).elim hfirst hsecond

/-- One entry of a timeline is replaced by its parts up to and after an id. -/
inductive Split : Timeline α → Timeline α → Prop
  | entry (front back : Timeline α) (x : α) {lo m hi : VersionId} : lo ≤ m → m < hi →
      Split (front ++ ⟨x, lo, hi⟩ :: back) (front ++ ⟨x, lo, m⟩ :: ⟨x, m + 1, hi⟩ :: back)

theorem Split.activeAt_eq {t u : Timeline α} (h : Split t u) (target : VersionId) :
    u.activeAt target = t.activeAt target := by
  cases h with
  | entry front back x hlo hhi =>
      rw [activeAt_append, activeAt_append]
      exact congrArg _ (activeAt_parts (e := ⟨x, _, _⟩) hlo hhi back target)

theorem activeAt_of_splits {t u : Timeline α} (h : Relation.ReflTransGen Split t u)
    (target : VersionId) : u.activeAt target = t.activeAt target := by
  induction h with
  | refl => rfl
  | tail _ hsplit ih => rw [hsplit.activeAt_eq, ih]

/-! ## Dropping entries by their values -/

theorem activeAt_filter_value (q : α → Bool) (t : Timeline α) (target : VersionId) :
    activeAt (t.filter (q ·.value)) target = (t.activeAt target).filter q := by
  rw [activeAt, activeAt, List.filter_map, List.filter_filter, List.filter_filter]
  simp only [Function.comp_def, Bool.and_comm]

/-- Entries whose value is not listed can be dropped. -/
theorem activeAt_listed [DecidableEq α] (t : Timeline α) (target : VersionId) :
    activeAt (t.filter fun e => (t.activeAt target).contains e.value) target
      = t.activeAt target := by
  rw [activeAt_filter_value, List.filter_eq_self]
  intro x hx
  exact List.contains_iff_mem.mpr hx

/-! ## The headline theorem -/

/-- **Timelines can be taken apart and put together.** At every id two timelines, one
after the other, list what the first lists and then what the second does. An entry can
be replaced, again and again, by two of its value that meet inside its span. And
dropping the entries whose value is not listed changes nothing. -/
theorem recombined_lists_alike (α : Type) [DecidableEq α] (target : VersionId) :
    (∀ t u : Timeline α, activeAt (t ++ u) target = t.activeAt target ++ u.activeAt target)
    ∧ (∀ (front back : Timeline α) (x : α) (lo m hi : VersionId), lo ≤ m → m < hi →
      activeAt (front ++ ⟨x, lo, m⟩ :: ⟨x, m + 1, hi⟩ :: back) target
        = activeAt (front ++ ⟨x, lo, hi⟩ :: back) target)
    ∧ (∀ t u : Timeline α, Relation.ReflTransGen Split t u →
      u.activeAt target = t.activeAt target)
    ∧ (∀ t : Timeline α,
      activeAt (t.filter fun e => (t.activeAt target).contains e.value) target
        = t.activeAt target) := by
  refine ⟨fun t u => activeAt_append t u target, ?_, fun t u h => activeAt_of_splits h target,
    fun t => activeAt_listed t target⟩
  intro front back x lo m hi hlo hhi
  exact (Split.entry front back x hlo hhi).activeAt_eq target

/-- The value `1` of the ids 10 to 19 is split twice, once at its very first id, between two
other entries, one of which has the same value: at the seam it is listed as before, and
dropping what is not listed keeps the entry that has ended. -/
theorem recombined_lists_alike_first_id :
    ∃ t u : Timeline Nat, t = [⟨1, 0, 5⟩, ⟨1, 10, 19⟩, ⟨2, 0, 30⟩, ⟨3, 20, 30⟩]
      ∧ u = [⟨1, 0, 5⟩, ⟨1, 10, 10⟩, ⟨1, 11, 14⟩, ⟨1, 15, 19⟩, ⟨2, 0, 30⟩, ⟨3, 20, 30⟩]
      ∧ Relation.ReflTransGen Split t u
      ∧ u.activeAt 10 = [1, 2]
      ∧ (t.filter fun e => (t.activeAt 10).contains e.value)
        = [⟨1, 0, 5⟩, ⟨1, 10, 19⟩, ⟨2, 0, 30⟩]
      ∧ activeAt [(⟨1, 0, 5⟩ : Dated Nat), ⟨1, 10, 19⟩, ⟨2, 0, 30⟩] 10 = [1, 2] := by
  obtain ⟨-, -, hsplits, hlisted⟩ := recombined_lists_alike Nat 10
  have hfirst : Split [(⟨1, 0, 5⟩ : Dated Nat), ⟨1, 10, 19⟩, ⟨2, 0, 30⟩, ⟨3, 20, 30⟩]
      [⟨1, 0, 5⟩, ⟨1, 10, 10⟩, ⟨1, 11, 19⟩, ⟨2, 0, 30⟩, ⟨3, 20, 30⟩] :=
    .entry [⟨1, 0, 5⟩] [⟨2, 0, 30⟩, ⟨3, 20, 30⟩] 1 (by decide) (by decide)
  have hsecond : Split [(⟨1, 0, 5⟩ : Dated Nat), ⟨1, 10, 10⟩, ⟨1, 11, 19⟩, ⟨2, 0, 30⟩, ⟨3, 20, 30⟩]
      [⟨1, 0, 5⟩, ⟨1, 10, 10⟩, ⟨1, 11, 14⟩, ⟨1, 15, 19⟩, ⟨2, 0, 30⟩, ⟨3, 20, 30⟩] :=
    .entry [⟨1, 0, 5⟩, ⟨1, 10, 10⟩] [⟨2, 0, 30⟩, ⟨3, 20, 30⟩] 1 (by decide) (by decide)
  have hboth := Relation.ReflTransGen.single hfirst |>.tail hsecond
  exact ⟨_, _, rfl, rfl, hboth, hsplits _ _ hboth, rfl,
    hlisted [⟨1, 0, 5⟩, ⟨1, 10, 19⟩, ⟨2, 0, 30⟩, ⟨3, 20, 30⟩]⟩

end Timeline

end SqlDialect
