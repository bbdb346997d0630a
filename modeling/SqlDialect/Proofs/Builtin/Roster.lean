import SqlDialect.Builtin.Merge

/-!
# Rosters

A roster holds functions and, beside them, a position for each name. That the two
agree is an invariant of the loop (`Roster.InStep`): a name has the position `i`
exactly when the function at `i` has that name. So every position lies within the
functions, writing there replaces a function of the same name, and no name stands
twice.

With it, the loop can be described by the functions alone (`gather`): entering a
function is putting it in the place of the first one of its name (`place`), which
asks for no positions (`Roster.toList_enter`).
-/

namespace SqlDialect

namespace Builtin

/-! ## Placing by name -/

/-- `f` in the place of the function of the same name, or at the end. -/
def place (f : Builtin) : List Builtin → List Builtin
  | [] => [f]
  | g :: rest => if g.name = f.name then f :: rest else g :: place f rest

/-- Functions placed one after another. -/
def gather (fs new : List Builtin) : List Builtin := new.foldl (fun fs f => f.place fs) fs

theorem place_append_of_not_mem {f : Builtin} {fs : List Builtin} (h : f.name ∉ fs.map name)
    (gs : List Builtin) : f.place (fs ++ gs) = fs ++ f.place gs := by
  induction fs with
  | nil => rfl
  | cons g fs ih =>
      rw [List.map_cons, List.mem_cons, not_or] at h
      have hg : g.name ≠ f.name := Ne.symm h.1
      rw [List.cons_append, place, if_neg hg, ih h.2, List.cons_append]

theorem place_of_not_mem {f : Builtin} {fs : List Builtin} (h : f.name ∉ fs.map name) :
    f.place fs = fs ++ [f] := by
  have hend := place_append_of_not_mem h []
  rwa [List.append_nil] at hend

/-- Placing is writing at the first position of the name. -/
theorem place_eq_set {f : Builtin} {fs : List Builtin} {i : Nat}
    (hi : (fs.map name)[i]? = some f.name) (hfirst : ∀ j < i, (fs.map name)[j]? ≠ some f.name) :
    f.place fs = fs.set i f := by
  induction fs generalizing i with
  | nil => cases hi
  | cons g fs ih =>
      cases i with
      | zero =>
          have hg : g.name = f.name := Option.some.inj hi
          rw [place, if_pos hg, List.set_cons_zero]
      | succ i =>
          have hg : g.name ≠ f.name := fun heq => hfirst 0 (Nat.succ_pos i) (congrArg some heq)
          have hrest : ∀ j < i, (fs.map name)[j]? ≠ some f.name := fun j hj =>
            hfirst (j + 1) (Nat.succ_lt_succ hj)
          rw [place, if_neg hg, List.set_cons_succ, ih hi hrest]

/-- The active functions of the layers, layer by layer, each in the order of its
table. -/
def entries (layers : List BuiltinLayer) : List Builtin := layers.flatMap BuiltinLayer.active

end Builtin

namespace Roster

/-! ## Functions and positions agree -/

def names (r : Roster) : List String := r.functions.toList.map Builtin.name

/-- The positions are those of the names among the functions, and no others. -/
def InStep (r : Roster) : Prop := ∀ n i, r.positions.lookup n = some i ↔ r.names[i]? = some n

theorem inStep_empty : empty.InStep := by
  intro n i
  simp [empty, names]

variable {r : Roster}

/-- A position is within the functions, and what stands there has the name. -/
theorem InStep.lookup_iff (h : r.InStep) {n : String} {i : Nat} :
    r.positions.lookup n = some i ↔ ∃ f, r.functions[i]? = some f ∧ f.name = n := by
  rw [h, names, List.getElem?_map, Option.map_eq_some_iff, Array.getElem?_toList]

theorem InStep.not_mem_names (h : r.InStep) {n : String} (hn : r.positions.lookup n = none) :
    n ∉ r.names := by
  intro hmem
  obtain ⟨i, hi⟩ := List.mem_iff_getElem?.mp hmem
  rw [(h n i).mpr hi] at hn
  cases hn

theorem enter_of_some {f : Builtin} {i : Nat} (hi : r.positions.lookup f.name = some i) :
    r.enter f = { r with functions := r.functions.setIfInBounds i f } := by
  rw [enter, hi]

theorem enter_of_none {f : Builtin} (hf : r.positions.lookup f.name = none) :
    r.enter f = ⟨r.functions.push f, (f.name, r.functions.size) :: r.positions⟩ := by
  rw [enter, hf]

/-- A function that is written at the position of its name changes no name. -/
theorem names_enter_of_some (h : r.InStep) {f : Builtin} {i : Nat}
    (hi : r.positions.lookup f.name = some i) : (r.enter f).names = r.names := by
  have hname : r.names[i]? = some f.name := (h _ _).mp hi
  obtain ⟨hlt, hget⟩ := List.getElem?_eq_some_iff.mp hname
  rw [enter_of_some hi, names, Array.toList_setIfInBounds, List.map_set, ← names, ← hget,
    List.set_getElem_self]

theorem names_enter_of_none {f : Builtin} (hf : r.positions.lookup f.name = none) :
    (r.enter f).names = r.names ++ [f.name] := by
  rw [enter_of_none hf, names, Array.toList_push, List.map_append, List.map_singleton, ← names]

theorem length_names (r : Roster) : r.names.length = r.functions.size := by
  simp [names]

theorem getElem?_names_concat (r : Roster) (n m : String) (i : Nat) :
    (r.names ++ [n])[i]? = some m ↔ r.names[i]? = some m ∨ i = r.functions.size ∧ n = m := by
  rw [List.getElem?_append, length_names]
  by_cases hlt : i < r.functions.size
  · have hne : i ≠ r.functions.size := Nat.ne_of_lt hlt
    simp [hlt, hne]
  · have hnone : r.names[i]? = none := by
      rw [List.getElem?_eq_none_iff, length_names]
      exact Nat.le_of_not_lt hlt
    have hlast : i - r.functions.size = 0 ↔ i = r.functions.size := by omega
    simp [hlt, hnone, hlast, List.getElem?_singleton]

theorem InStep.enter (h : r.InStep) (f : Builtin) : (r.enter f).InStep := by
  intro n i
  cases hf : r.positions.lookup f.name with
  | some j =>
      rw [names_enter_of_some h hf, enter_of_some hf]
      exact h n i
  | none =>
      rw [names_enter_of_none hf, enter_of_none hf, getElem?_names_concat, List.lookup_cons]
      by_cases hn : n = f.name
      · -- the name is new, so that it stands at the end and nowhere else
        subst hn
        have hnew : r.names[i]? ≠ some f.name := fun hi =>
          h.not_mem_names hf (List.mem_of_getElem? hi)
        simp [hnew, eq_comm]
      · have hother : f.name ≠ n := Ne.symm hn
        rw [beq_false_of_ne hn]
        simp [hother, h n i]

theorem inStep_foldl (es : List Builtin) (h : r.InStep) : (es.foldl Roster.enter r).InStep := by
  induction es generalizing r with
  | nil => exact h
  | cons f es ih => exact ih (h.enter f)

/-! ## The loop without positions -/

theorem toList_enter (h : r.InStep) (f : Builtin) :
    (r.enter f).functions.toList = f.place r.functions.toList := by
  cases hf : r.positions.lookup f.name with
  | some i =>
      have hi : r.names[i]? = some f.name := (h _ _).mp hf
      -- a name has one position, so that no earlier function has it
      have hfirst : ∀ j < i, r.names[j]? ≠ some f.name := by
        intro j hj heq
        rw [← h, hf, Option.some.injEq] at heq
        exact Nat.ne_of_gt hj heq
      rw [enter_of_some hf, Array.toList_setIfInBounds, Builtin.place_eq_set hi hfirst]
  | none =>
      rw [enter_of_none hf, Array.toList_push, Builtin.place_of_not_mem (h.not_mem_names hf)]

theorem toList_foldl (es : List Builtin) (h : r.InStep) :
    (es.foldl Roster.enter r).functions.toList = Builtin.gather r.functions.toList es := by
  induction es generalizing r with
  | nil => rfl
  | cons f es ih =>
      rw [List.foldl_cons, ih (h.enter f), toList_enter h]
      rfl

/-- Going through the layers, and through each of them, is going through all
entries. -/
theorem ofLayers_eq_foldl (layers : List BuiltinLayer) :
    ofLayers layers = (Builtin.entries layers).foldl Roster.enter .empty := by
  rw [Builtin.entries, List.foldl_flatMap]
  rfl

end Roster

theorem Builtin.merge_eq_gather (layers : List BuiltinLayer) :
    merge layers = gather [] (entries layers) := by
  rw [merge, Roster.ofLayers_eq_foldl, Roster.toList_foldl _ Roster.inStep_empty]
  rfl

end SqlDialect
