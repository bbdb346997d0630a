import Mathlib.Data.List.Induction
import Mathlib.Data.List.Nodup
import SqlDialect.Platform.Resolution
import SqlDialect.Proofs.Timeline.Succession

/-!
# The meaning of a stack of layers

`Capabilities.resolve` works through its layers in order, taking names away and
putting names in. What remains can be said without any order of work: a thing
*survives* when some layer gives it and no later layer takes it away.

The argument is one induction (`stack_iff`). For whatever is asked of the
capabilities, it is enough to know how the answer changes in one layer: it
holds afterwards when the layer gives it, or when it held before and the layer
does not drop it. Names, types, variables and limits are then instances that
only supply this step.

The tables of a layer may be read at a later id. A kind of names *lasts* when
nothing of it breaks off in them and nothing of it is withdrawn only later
(`Tables.Lasting`); what the layer left before, it then leaves again
(`Tables.Lasting.mem_names_apply`).
-/

namespace SqlDialect

/-! ## What a layer says -/

namespace Layer

/-- The layer has an entry of that kind and name at its target. -/
def Gives (l : Layer) (kind : NameKind) (name : String) : Prop :=
  match kind with
  | .keyword => l.tables.keywords.Has l.target name
  | .reserved => l.tables.reserved.Has l.target name
  | .operator => l.tables.operators.Has l.target name
  | .systemVariable => ∃ v, l.tables.systemVariables.Has l.target v ∧ v.name = name
  | .preparable => l.tables.preparable.Has l.target name

/-- The layer withdraws that kind and name at its target. -/
def Withdraws (l : Layer) (kind : NameKind) (name : String) : Prop :=
  l.tables.withdrawn.Has l.target ⟨kind, name⟩

/-- Some layer gives, and no later layer drops. -/
def Survives (gives drops : Layer → Prop) (layers : List Layer) : Prop :=
  ∃ before l after, layers = before ++ l :: after ∧ gives l ∧ ∀ l' ∈ after, ¬drops l'

theorem survives_concat {gives drops : Layer → Prop} {layers : List Layer} {l : Layer} :
    Survives gives drops (layers ++ [l]) ↔ gives l ∨ Survives gives drops layers ∧ ¬drops l := by
  constructor
  · rintro ⟨before, m, after, heq, hgives, hdrops⟩
    rcases List.eq_nil_or_concat after with rfl | ⟨after', l', rfl⟩
    · obtain ⟨-, hl⟩ := List.append_inj' heq rfl
      obtain rfl := List.singleton_inj.mp hl
      exact Or.inl hgives
    · have heq' : layers ++ [l] = (before ++ m :: after') ++ [l'] := by simpa using heq
      obtain ⟨rfl, hl⟩ := List.append_inj' heq' rfl
      obtain rfl := List.singleton_inj.mp hl
      exact Or.inr ⟨⟨before, m, after', rfl, hgives, fun k hk =>
        hdrops k (by simp [hk])⟩, hdrops l (by simp)⟩
  · rintro (hgives | ⟨⟨before, m, after, rfl, hgives, hdrops⟩, hl⟩)
    · exact ⟨layers, l, [], rfl, hgives, by simp⟩
    · refine ⟨before, m, after ++ [l], by simp, hgives, fun k hk => ?_⟩
      rcases List.mem_append.mp hk with hk | hk
      · exact hdrops k hk
      · rw [List.mem_singleton.mp hk]
        exact hl

end Layer

namespace Capabilities

/-! ## The induction -/

theorem stack_concat (layers : List Layer) (l : Layer) :
    stack (layers ++ [l]) = (stack layers).apply l := by
  simp [stack]

/-- What one layer gives or else leaves as it was, unless it drops it, holds of
a stack exactly when it survives. -/
theorem stack_iff (P : Capabilities → Prop) {gives drops : Layer → Prop} (hnothing : ¬P nothing)
    (hstep : ∀ c l, P (c.apply l) ↔ gives l ∨ P c ∧ ¬drops l) (layers : List Layer) :
    P (stack layers) ↔ Layer.Survives gives drops layers := by
  induction layers using List.reverseRecOn with
  | nil =>
      refine iff_of_false hnothing ?_
      rintro ⟨before, l, after, heq, -⟩
      simp at heq
  | append_singleton layers l ih =>
      rw [stack_concat, hstep, ih, Layer.survives_concat]

/-! ## Names -/

def names (c : Capabilities) : NameKind → List String
  | .keyword => c.keywords
  | .reserved => c.reserved
  | .operator => c.operators
  | .systemVariable => c.systemVariables.map (·.name)
  | .preparable => c.preparable

theorem names_withdraw (c : Capabilities) (w : Withdrawal) (kind : NameKind) :
    (c.withdraw w).names kind
      = if w.kind = kind then (c.names kind).filter (· != w.name) else c.names kind := by
  obtain ⟨wkind, wname⟩ := w
  cases wkind <;> cases kind <;> simp [withdraw, names, List.filter_map, Function.comp_def]

theorem mem_names_withdraw {c : Capabilities} {w : Withdrawal} {kind : NameKind} {name : String} :
    name ∈ (c.withdraw w).names kind ↔ name ∈ c.names kind ∧ w ≠ ⟨kind, name⟩ := by
  obtain ⟨wkind, wname⟩ := w
  rw [names_withdraw]
  by_cases hkind : wkind = kind
  · subst hkind
    simp [ne_comm]
  · simp [hkind]

theorem mem_names_withdrawAll {ws : List Withdrawal} {c : Capabilities} {kind : NameKind}
    {name : String} :
    name ∈ (ws.foldl withdraw c).names kind ↔ name ∈ c.names kind ∧ ⟨kind, name⟩ ∉ ws := by
  induction ws generalizing c with
  | nil => simp
  | cons w ws ih =>
      rw [List.foldl_cons, ih, mem_names_withdraw, List.mem_cons, not_or, and_assoc, ne_comm]

theorem mem_map_putBy {α κ : Type} [DecidableEq κ] {key : α → κ} {xs : List α} {x : α} {k : κ} :
    k ∈ (putBy key xs x).map key ↔ k ∈ xs.map key ∨ k = key x := by
  simp only [putBy, List.map_append, List.mem_append, List.mem_map, List.mem_filter, bne_iff_ne,
    List.map_cons, List.map_nil, List.mem_singleton]
  by_cases hk : k = key x
  · simp [hk]
  · refine or_congr_left' fun _ => ⟨?_, ?_⟩
    · rintro ⟨y, ⟨hy, -⟩, rfl⟩
      exact ⟨y, hy, rfl⟩
    · rintro ⟨y, hy, rfl⟩
      exact ⟨y, ⟨hy, hk⟩, rfl⟩

theorem mem_map_putAll {α κ : Type} [DecidableEq κ] {key : α → κ} {k : κ} :
    ∀ {new old : List α},
      k ∈ (new.foldl (putBy key) old).map key ↔ k ∈ old.map key ∨ k ∈ new.map key
  | [], old => by simp
  | x :: new, old => by
      rw [List.foldl_cons, mem_map_putAll, mem_map_putBy, List.map_cons, List.mem_cons, or_assoc]

theorem mem_names_add {c : Capabilities} {l : Layer} {kind : NameKind} {name : String} :
    name ∈ (c.add l).names kind ↔ name ∈ c.names kind ∨ l.Gives kind name := by
  cases kind with
  | keyword => simp [add, names, Layer.Gives, Timeline.mem_activeAt]
  | reserved => simp [add, names, Layer.Gives, Timeline.mem_activeAt]
  | operator => simp [add, names, Layer.Gives, Timeline.mem_activeAt]
  | systemVariable =>
      simp only [add, names, Layer.Gives, mem_map_putAll]
      simp [Timeline.mem_activeAt]
  | preparable => simp [add, names, Layer.Gives, Timeline.mem_activeAt]

theorem mem_names_apply {c : Capabilities} {l : Layer} {kind : NameKind} {name : String} :
    name ∈ (c.apply l).names kind ↔
      l.Gives kind name ∨ name ∈ c.names kind ∧ ¬l.Withdraws kind name := by
  rw [apply, mem_names_add, mem_names_withdrawAll, Timeline.mem_activeAt, or_comm]
  rfl

/-- A name is in the stack when some layer gives it and no later one withdraws
it. -/
theorem mem_names_stack {layers : List Layer} {kind : NameKind} {name : String} :
    name ∈ (stack layers).names kind ↔
      Layer.Survives (·.Gives kind name) (·.Withdraws kind name) layers :=
  stack_iff (name ∈ ·.names kind) (by cases kind <;> simp [nothing, names])
    (fun _ _ => mem_names_apply) layers

/-! ## Names at a later id -/

end Capabilities

namespace Tables

/-- The names of the kind do not break off, and those that are withdrawn were
withdrawn from the start. -/
structure Lasting (t : Tables) (kind : NameKind) : Prop where
  unbroken : match kind with
    | .keyword => t.keywords.Unbroken id
    | .reserved => t.reserved.Unbroken id
    | .operator => t.operators.Unbroken id
    | .systemVariable => t.systemVariables.Unbroken Variable.name
    | .preparable => t.preparable.Unbroken id
  withdrawn : ∀ e ∈ t.withdrawn, e.value.kind = kind → e.introduced = VersionId.least

variable {t : Tables} {kind : NameKind} {a b : VersionId} {name : String}

theorem Lasting.gives (h : t.Lasting kind) (hle : a ≤ b) (hend : b ≤ VersionId.greatest)
    (hgives : Layer.Gives ⟨t, a⟩ kind name) : Layer.Gives ⟨t, b⟩ kind name := by
  have hword : ∀ {words : Timeline String}, words.Unbroken id → words.Has a name →
      words.Has b name := by
    intro words hunbroken hhas
    obtain ⟨w, hw, rfl⟩ := hunbroken.has hle hend hhas
    exact hw
  cases kind with
  | keyword => exact hword h.unbroken hgives
  | reserved => exact hword h.unbroken hgives
  | operator => exact hword h.unbroken hgives
  | systemVariable =>
      obtain ⟨v, hv, rfl⟩ := hgives
      exact Timeline.Unbroken.has h.unbroken hle hend hv
  | preparable => exact hword h.unbroken hgives

/-- A withdrawal at a later id was in force already. -/
theorem Lasting.withdraws (h : t.Lasting kind) (hle : a ≤ b)
    (hwithdraws : Layer.Withdraws ⟨t, b⟩ kind name) : Layer.Withdraws ⟨t, a⟩ kind name := by
  obtain ⟨e, he, hspans, hvalue⟩ := hwithdraws
  have hstart := h.withdrawn e he (by rw [hvalue])
  exact ⟨e, he, ⟨hstart ▸ Nat.zero_le a, Nat.le_trans hle hspans.2⟩, hvalue⟩

theorem Lasting.mem_names_apply (h : t.Lasting kind) (hle : a ≤ b) (hend : b ≤ VersionId.greatest)
    {c d : Capabilities} (hcd : name ∈ c.names kind → name ∈ d.names kind)
    (hname : name ∈ (c.apply ⟨t, a⟩).names kind) : name ∈ (d.apply ⟨t, b⟩).names kind := by
  rw [Capabilities.mem_names_apply] at hname ⊢
  rcases hname with hown | ⟨hkept, hstays⟩
  · exact Or.inl (h.gives hle hend hown)
  · exact Or.inr ⟨hcd hkept, fun hdrops => hstays (h.withdraws hle hdrops)⟩

end Tables

namespace Capabilities

/-! ## Variables and limits

Both are kept by a key, and a later entry takes the place of an earlier one. -/

theorem find?_filter_ne {α κ : Type} [DecidableEq κ] {key : α → κ} {xs : List α} {j k : κ} :
    (xs.filter (key · != j)).find? (key · == k)
      = if j = k then none else xs.find? (key · == k) := by
  by_cases hjk : j = k
  · rw [if_pos hjk, List.find?_eq_none]
    intro y hy hk
    have hne : key y ≠ j := by simpa using (List.mem_filter.mp hy).2
    exact hne ((beq_iff_eq.mp hk).trans hjk.symm)
  · rw [if_neg hjk, List.find?_filter]
    congr 1
    funext y
    by_cases hy : key y = k
    · simp [hy, Ne.symm hjk]
    · simp [hy]

theorem find?_putBy {α κ : Type} [DecidableEq κ] {key : α → κ} {xs : List α} {x : α} {k : κ} :
    (putBy key xs x).find? (key · == k)
      = if key x = k then some x else xs.find? (key · == k) := by
  rw [putBy, List.find?_append, find?_filter_ne]
  by_cases hk : key x = k <;> simp [hk]

/-- The last new entry of a key is found, or else the old one. -/
theorem find?_putAll {α κ : Type} [DecidableEq κ] {key : α → κ} {k : κ} :
    ∀ {new old : List α},
      (new.foldl (putBy key) old).find? (key · == k)
        = (new.reverse.find? (key · == k)).or (old.find? (key · == k))
  | [], old => by simp
  | x :: new, old => by
      rw [List.foldl_cons, find?_putAll, find?_putBy, List.reverse_cons, List.find?_append,
        Option.or_assoc]
      by_cases hk : key x = k <;> simp [hk]

theorem find?_eq_some_iff_of_nodup {α κ : Type} [DecidableEq κ] {key : α → κ} {xs : List α}
    (h : (xs.map key).Nodup) {k : κ} {x : α} :
    xs.find? (key · == k) = some x ↔ x ∈ xs ∧ key x = k := by
  constructor
  · intro hfind
    have hkey := List.find?_some hfind
    exact ⟨List.mem_of_find?_eq_some hfind, beq_iff_eq.mp hkey⟩
  · rintro ⟨hx, rfl⟩
    cases hfind : xs.find? (key · == key x) with
    | none => exact absurd (beq_self_eq_true _) (List.find?_eq_none.mp hfind x hx)
    | some y =>
        have hkey : key y = key x := by simpa using List.find?_some hfind
        rw [List.inj_on_of_nodup_map h (List.mem_of_find?_eq_some hfind) hx hkey]

theorem nodup_map_putBy {α κ : Type} [DecidableEq κ] {key : α → κ} {xs : List α}
    (h : (xs.map key).Nodup) (x : α) : ((putBy key xs x).map key).Nodup := by
  rw [putBy, List.map_append, List.nodup_append]
  refine ⟨(List.filter_sublist.map key).nodup h, List.nodup_singleton _, ?_⟩
  rintro a ha b hb rfl
  obtain ⟨y, hy, rfl⟩ := List.mem_map.mp ha
  have hkey : key y = key x := by simpa using hb
  exact absurd hkey (by simpa using (List.mem_filter.mp hy).2)

theorem nodup_map_putAll {α κ : Type} [DecidableEq κ] {key : α → κ} :
    ∀ {new old : List α}, (old.map key).Nodup → ((new.foldl (putBy key) old).map key).Nodup
  | [], _, h => h
  | x :: new, _, h => by
      rw [List.foldl_cons]
      exact nodup_map_putAll (nodup_map_putBy h x)

theorem nodup_variables_withdrawAll :
    ∀ {ws : List Withdrawal} {c : Capabilities}, (c.names .systemVariable).Nodup →
      ((ws.foldl withdraw c).names .systemVariable).Nodup
  | [], _, h => h
  | w :: ws, c, h => by
      rw [List.foldl_cons]
      refine nodup_variables_withdrawAll ?_
      rw [names_withdraw]
      split
      · exact List.filter_sublist.nodup h
      · exact h

theorem nodup_variables_stack (layers : List Layer) :
    ((stack layers).names .systemVariable).Nodup := by
  induction layers using List.reverseRecOn with
  | nil => exact List.nodup_nil
  | append_singleton layers l ih =>
      rw [stack_concat]
      exact nodup_map_putAll (nodup_variables_withdrawAll ih)

theorem variableNamed?_withdraw {c : Capabilities} {w : Withdrawal} {name : String} :
    (c.withdraw w).variableNamed? name
      = if w = ⟨.systemVariable, name⟩ then none else c.variableNamed? name := by
  obtain ⟨kind, wname⟩ := w
  cases kind with
  | systemVariable =>
      simp only [withdraw, variableNamed?, find?_filter_ne, Withdrawal.mk.injEq, true_and]
  | keyword => simp [withdraw, variableNamed?]
  | reserved => simp [withdraw, variableNamed?]
  | operator => simp [withdraw, variableNamed?]
  | preparable => simp [withdraw, variableNamed?]

theorem variableNamed?_withdrawAll {name : String} :
    ∀ {ws : List Withdrawal} {c : Capabilities},
      (ws.foldl withdraw c).variableNamed? name
        = if ⟨.systemVariable, name⟩ ∈ ws then none else c.variableNamed? name
  | [], c => by simp
  | w :: ws, c => by
      rw [List.foldl_cons, variableNamed?_withdrawAll, variableNamed?_withdraw]
      by_cases hw : w = ⟨.systemVariable, name⟩
      · simp [hw]
      · simp [hw, Ne.symm hw]

theorem variableNamed?_apply {c : Capabilities} {l : Layer} {name : String} :
    (c.apply l).variableNamed? name
      = ((l.tables.systemVariables.activeAt l.target).reverse.find? (·.name == name)).or
          (if ⟨.systemVariable, name⟩ ∈ l.tables.withdrawn.activeAt l.target then none
            else c.variableNamed? name) := by
  rw [← variableNamed?_withdrawAll]
  exact find?_putAll

theorem variableNamed?_apply_of_gives (c : Capabilities) {l : Layer} {name : String}
    (h : l.Gives .systemVariable name) :
    ∃ v, l.tables.systemVariables.Has l.target v ∧ v.name = name
      ∧ (c.apply l).variableNamed? name = some v := by
  rw [variableNamed?_apply]
  cases hfind : (l.tables.systemVariables.activeAt l.target).reverse.find? (·.name == name) with
  | some v =>
      obtain ⟨hv, hname⟩ := Timeline.has_of_find?_reverse_activeAt hfind
      exact ⟨v, hv, beq_iff_eq.mp hname, rfl⟩
  | none =>
      obtain ⟨v, hv, hname⟩ := h
      exact absurd (by simp [hname]) (Timeline.find?_reverse_activeAt_eq_none.mp hfind v hv)

theorem variableNamed?_apply_of_not_gives {c : Capabilities} {l : Layer} {name : String}
    (h : ¬l.Gives .systemVariable name) {v : Variable} :
    (c.apply l).variableNamed? name = some v ↔
      c.variableNamed? name = some v ∧ ¬l.Withdraws .systemVariable name := by
  have hfind : (l.tables.systemVariables.activeAt l.target).reverse.find? (·.name == name) = none := by
    rw [Timeline.find?_reverse_activeAt_eq_none]
    intro u hu hname
    exact h ⟨u, hu, beq_iff_eq.mp hname⟩
  rw [variableNamed?_apply, hfind, Option.none_or]
  by_cases hw : l.Withdraws .systemVariable name
  · rw [if_pos (Timeline.mem_activeAt.mpr hw)]
    exact iff_of_false (by simp) fun hkept => hkept.2 hw
  · rw [if_neg fun hmem => hw (Timeline.mem_activeAt.mp hmem)]
    exact (and_iff_left hw).symm

/-- A variable is the last one of its name in some layer, and no later layer has
one or withdraws it. -/
theorem variableNamed?_stack {layers : List Layer} {name : String} {v : Variable} :
    (stack layers).variableNamed? name = some v ↔
      Layer.Survives (fun l => l.tables.systemVariables.LastAt l.target (·.name = name) v)
        (fun l => l.Gives .systemVariable name ∨ l.Withdraws .systemVariable name) layers := by
  refine stack_iff (·.variableNamed? name = some v) (by simp [nothing, variableNamed?])
    (fun c l => ?_) layers
  have hlast : l.tables.systemVariables.LastAt l.target (·.name = name) v ↔
      (l.tables.systemVariables.activeAt l.target).reverse.find? (·.name == name) = some v := by
    rw [Timeline.find?_reverse_activeAt]
    simp
  rw [hlast]
  cases hfind : (l.tables.systemVariables.activeAt l.target).reverse.find? (·.name == name) with
  | some u =>
      obtain ⟨hu, hname⟩ := Timeline.has_of_find?_reverse_activeAt hfind
      have hgives : l.Gives .systemVariable name := ⟨u, hu, beq_iff_eq.mp hname⟩
      simp [variableNamed?_apply, hfind, hgives]
  | none =>
      have hgives : ¬l.Gives .systemVariable name := by
        rintro ⟨u, hu, hname⟩
        exact Timeline.find?_reverse_activeAt_eq_none.mp hfind u hu (by simp [hname])
      simp [variableNamed?_apply_of_not_gives hgives, hgives]

theorem limits_withdrawAll :
    ∀ (ws : List Withdrawal) (c : Capabilities), (ws.foldl withdraw c).limits = c.limits
  | [], c => rfl
  | w :: ws, c => by
      rw [List.foldl_cons, limits_withdrawAll]
      obtain ⟨kind, name⟩ := w
      cases kind <;> rfl

theorem limit?_apply {c : Capabilities} {l : Layer} {kind : ObjectKind} :
    (c.apply l).limit? kind
      = (((l.tables.limits.activeAt l.target).reverse.find? (·.1 == kind)).map (·.2)).or
          (c.limit? kind) := by
  rw [limit?, limit?, ← limits_withdrawAll (l.tables.withdrawn.activeAt l.target) c, apply, add,
    find?_putAll, Option.map_or]

theorem limit?_apply_cases (c : Capabilities) (l : Layer) (kind : ObjectKind) :
    (∃ n, l.tables.limits.Has l.target (kind, n) ∧ (c.apply l).limit? kind = some n)
    ∨ (∀ n, ¬l.tables.limits.Has l.target (kind, n)) ∧ (c.apply l).limit? kind = c.limit? kind := by
  rw [limit?_apply]
  cases hfind : (l.tables.limits.activeAt l.target).reverse.find? (·.1 == kind) with
  | some found =>
      obtain ⟨kind', n⟩ := found
      obtain ⟨hhas, hkind⟩ := Timeline.has_of_find?_reverse_activeAt hfind
      obtain rfl : kind' = kind := beq_iff_eq.mp hkind
      exact Or.inl ⟨n, hhas, rfl⟩
  | none =>
      refine Or.inr ⟨fun n hhas => ?_, rfl⟩
      exact Timeline.find?_reverse_activeAt_eq_none.mp hfind (kind, n) hhas (by simp)

/-- A limit is the last one of its kind in some layer, and no later layer has
one. -/
theorem limit?_stack {layers : List Layer} {kind : ObjectKind} {n : Nat} :
    (stack layers).limit? kind = some n ↔
      Layer.Survives (fun l => l.tables.limits.LastAt l.target (·.1 = kind) (kind, n))
        (fun l => ∃ m, l.tables.limits.Has l.target (kind, m)) layers := by
  refine stack_iff (·.limit? kind = some n) (by simp [nothing, limit?]) (fun c l => ?_) layers
  have hlast : l.tables.limits.LastAt l.target (·.1 = kind) (kind, n) ↔
      (l.tables.limits.activeAt l.target).reverse.find? (·.1 == kind) = some (kind, n) := by
    rw [Timeline.find?_reverse_activeAt]
    simp
  rw [limit?_apply, hlast]
  cases hfind : (l.tables.limits.activeAt l.target).reverse.find? (·.1 == kind) with
  | some found =>
      obtain ⟨kind', m⟩ := found
      obtain ⟨hm, hkind⟩ := Timeline.has_of_find?_reverse_activeAt hfind
      obtain rfl : kind' = kind := beq_iff_eq.mp hkind
      have hhas : ∃ m, l.tables.limits.Has l.target (kind', m) := ⟨m, hm⟩
      simp [hhas]
  | none =>
      have hnone : ¬∃ m, l.tables.limits.Has l.target (kind, m) := by
        rintro ⟨m, hm⟩
        exact Timeline.find?_reverse_activeAt_eq_none.mp hfind (kind, m) hm (by simp)
      simp [hnone]

/-! ## Types -/

theorem types_withdrawAll :
    ∀ (ws : List Withdrawal) (c : Capabilities), (ws.foldl withdraw c).types = c.types
  | [], c => rfl
  | w :: ws, c => by
      rw [List.foldl_cons, types_withdrawAll]
      obtain ⟨kind, name⟩ := w
      cases kind <;> rfl

theorem mem_types_apply {c : Capabilities} {l : Layer} {t : DataType} :
    t ∈ (c.apply l).types ↔ l.tables.types.Has l.target t ∨ t ∈ c.types := by
  simp [apply, add, types_withdrawAll, Timeline.mem_activeAt, or_comm]

/-- Types are never taken away. -/
theorem mem_types_stack {layers : List Layer} {t : DataType} :
    t ∈ (stack layers).types ↔ ∃ l ∈ layers, l.tables.types.Has l.target t := by
  have hsurvives : t ∈ (stack layers).types ↔
      Layer.Survives (fun l => l.tables.types.Has l.target t) (fun _ => False) layers := by
    refine stack_iff (t ∈ ·.types) (by simp [nothing]) (fun c l => ?_) layers
    rw [mem_types_apply, not_false_eq_true, and_true]
  rw [hsurvives]
  constructor
  · rintro ⟨before, l, after, rfl, hgives, -⟩
    exact ⟨l, by simp, hgives⟩
  · rintro ⟨l, hl, hgives⟩
    obtain ⟨before, after, rfl⟩ := List.append_of_mem hl
    exact ⟨before, l, after, rfl, hgives, fun _ _ h => h⟩

/-! ## The headline theorem -/

/-- **The meaning of layers.** A name is resolved when some layer gives it and no later
layer withdraws it; of the keywords, the reserved words are then taken out. A type only
has to be given. A variable or a limit is the last one of its name or kind in some
layer, where no later layer has one or withdraws it. What a layer withdraws is nothing
of its own and nothing of a later layer. -/
theorem resolve_layers (layers : List Layer) :
    (∀ name, name ∈ (resolve layers).reserved ↔
      Layer.Survives (·.Gives .reserved name) (·.Withdraws .reserved name) layers)
    ∧ (∀ name, name ∈ (resolve layers).operators ↔
      Layer.Survives (·.Gives .operator name) (·.Withdraws .operator name) layers)
    ∧ (∀ name, name ∈ (resolve layers).preparable ↔
      Layer.Survives (·.Gives .preparable name) (·.Withdraws .preparable name) layers)
    ∧ (∀ name, name ∈ (stack layers).keywords ↔
      Layer.Survives (·.Gives .keyword name) (·.Withdraws .keyword name) layers)
    ∧ (∀ name, name ∈ (resolve layers).keywords ↔
      name ∈ (stack layers).keywords ∧ name ∉ (resolve layers).reserved)
    ∧ (∀ t, t ∈ (resolve layers).types ↔ ∃ l ∈ layers, l.tables.types.Has l.target t)
    ∧ (∀ name v, (resolve layers).variableNamed? name = some v ↔
      Layer.Survives (fun l => l.tables.systemVariables.LastAt l.target (·.name = name) v)
        (fun l => l.Gives .systemVariable name ∨ l.Withdraws .systemVariable name) layers)
    ∧ (∀ kind n, (resolve layers).limit? kind = some n ↔
      Layer.Survives (fun l => l.tables.limits.LastAt l.target (·.1 = kind) (kind, n))
        (fun l => ∃ m, l.tables.limits.Has l.target (kind, m)) layers)
    ∧ (∀ kind name before l after, layers = before ++ l :: after → l.Gives kind name →
      (∀ l' ∈ after, ¬l'.Withdraws kind name) → name ∈ (stack layers).names kind) := by
  refine ⟨fun name => ?_, fun name => ?_, fun name => ?_, fun name => ?_, fun name => ?_,
    fun t => mem_types_stack, fun name v => variableNamed?_stack, fun kind n => limit?_stack, ?_⟩
  · exact @mem_names_stack layers .reserved name
  · exact @mem_names_stack layers .operator name
  · exact @mem_names_stack layers .preparable name
  · exact @mem_names_stack layers .keyword name
  · simp [resolve, separate]
  · intro kind name before l after hlayers hgives hkept
    exact mem_names_stack.mpr ⟨before, l, after, hlayers, hgives, hkept⟩

end Capabilities

end SqlDialect
