import SqlDialect.Proofs.Platform.Build

/-!
# Looking names up

The words of a platform are listed in order, but what is looked up is only
whether a word is among them (`mem_sortWords`). The order decides nothing either:
the list is strictly rising, so it is settled by what is on it
(`sortWords_eq_of_mem_iff`).

A lookup puts a name into the letters in which the tables have the names of its
kind, variables in small ones and all others in capital ones
(`NameKind.spelling`). It therefore finds exactly the names that are resolved, in
any case (`Shipped.spelling_mem_iff`), because every entry of the tables of the
library is in those letters, at whatever versions it exists
(`Shipped.spelling_name`).
-/

namespace SqlDialect

/-! ## Sorted words -/

namespace Platform

theorem mem_insertWord {w x : String} {ws : List String} :
    x ∈ insertWord w ws ↔ x = w ∨ x ∈ ws := by
  induction ws with
  | nil => simp [insertWord]
  | cons y ys ih =>
      unfold insertWord
      split
      · exact List.mem_cons
      · split
        · rename_i heq
          rw [heq, List.mem_cons, or_self_left]
        · rw [List.mem_cons, ih, List.mem_cons, or_left_comm]

theorem mem_sortWords {w : String} {ws : List String} : w ∈ sortWords ws ↔ w ∈ ws := by
  induction ws with
  | nil => rfl
  | cons x xs ih =>
      have hstep : sortWords (x :: xs) = insertWord x (sortWords xs) := rfl
      rw [hstep, mem_insertWord, ih, List.mem_cons]

theorem pairwise_insertWord (w : String) {ws : List String} (h : ws.Pairwise (· < ·)) :
    (insertWord w ws).Pairwise (· < ·) := by
  induction ws with
  | nil => exact List.pairwise_singleton _ _
  | cons x xs ih =>
      obtain ⟨hx, hxs⟩ := List.pairwise_cons.mp h
      unfold insertWord
      split
      · rename_i hlt
        refine List.pairwise_cons.mpr ⟨fun y hy => ?_, h⟩
        rcases List.mem_cons.mp hy with rfl | hy
        · exact hlt
        · exact String.lt_trans hlt (hx y hy)
      · split
        · exact h
        · rename_i hnlt hne
          have hlt : x < w := Std.lt_of_le_of_ne (String.not_lt.mp hnlt) (Ne.symm hne)
          refine List.pairwise_cons.mpr ⟨fun y hy => ?_, ih hxs⟩
          rcases mem_insertWord.mp hy with rfl | hy
          · exact hlt
          · exact hx y hy

theorem pairwise_sortWords (ws : List String) : (sortWords ws).Pairwise (· < ·) := by
  induction ws with
  | nil => exact List.Pairwise.nil
  | cons x xs ih => exact pairwise_insertWord x ih

theorem sortWords_eq_of_mem_iff {ws us : List String} (h : ∀ w, w ∈ ws ↔ w ∈ us) :
    sortWords ws = sortWords us := by
  have hnodup : ∀ ws, (sortWords ws).Nodup := by
    intro ws
    refine (pairwise_sortWords ws).imp fun {a b} hlt heq => ?_
    exact String.lt_irrefl b (heq ▸ hlt)
  have hperm : (sortWords ws).Perm (sortWords us) := by
    refine (List.perm_ext_iff_of_nodup (hnodup ws) (hnodup us)).mpr fun w => ?_
    rw [mem_sortWords, mem_sortWords, h w]
  exact hperm.eq_of_pairwise (fun a b _ _ hab hba => absurd hba (String.lt_asymm hab))
    (pairwise_sortWords ws) (pairwise_sortWords us)

theorem mem_reservedWords {p : Platform} {w : String} :
    w ∈ p.reservedWords ↔ w ∈ p.capabilities.reserved := mem_sortWords

theorem mem_nonReservedWords {p : Platform} {w : String} :
    w ∈ p.nonReservedWords ↔ w ∈ p.capabilities.keywords := mem_sortWords

end Platform

/-! ## The letters of the tables -/

namespace NameKind

/-- A name in the letters in which the tables have the names of its kind. -/
def spelling : NameKind → String → String
  | .systemVariable => Text.lower
  | .keyword | .reserved | .operator | .preparable => Text.upper

theorem spelling_eq_iff (kind : NameKind) {s t : String} :
    kind.spelling s = kind.spelling t ↔ Text.sameName s t = true := by
  cases kind with
  | systemVariable => exact Text.sameName_iff_lower.symm
  | keyword => exact Text.sameName_iff.symm
  | reserved => exact Text.sameName_iff.symm
  | operator => exact Text.sameName_iff.symm
  | preparable => exact Text.sameName_iff.symm

/-- The codes of the characters that stay as they are in that spelling. -/
def keepsCode : NameKind → Nat → Bool
  | .systemVariable, n => n < 0x80 && !(0x41 ≤ n && n ≤ 0x5A)
  | _, n => n < 0x80 && !(0x61 ≤ n && n ≤ 0x7A)

theorem keepsCode_lt {kind : NameKind} {n : Nat} (h : kind.keepsCode n = true) : n < 0x80 := by
  cases kind <;> exact of_decide_eq_true (Bool.and_eq_true_iff.mp h).1

theorem spelling_eq_self {kind : NameKind} {s : String}
    (h : (Text.bytes s).all (kind.keepsCode ·.toNat) = true) : kind.spelling s = s := by
  have hkept := Text.forall_toNat_of_bytes (fun _ => keepsCode_lt) h
  have hletter : ∀ {b c : Bool}, (b && !c) = true → c = false := by
    intro b c hbc
    simpa using (Bool.and_eq_true_iff.mp hbc).2
  cases kind with
  | systemVariable => exact Text.lower_eq_self fun c hc => hletter (hkept c hc)
  | keyword => exact Text.upper_eq_self fun c hc => hletter (hkept c hc)
  | reserved => exact Text.upper_eq_self fun c hc => hletter (hkept c hc)
  | operator => exact Text.upper_eq_self fun c hc => hletter (hkept c hc)
  | preparable => exact Text.upper_eq_self fun c hc => hletter (hkept c hc)

end NameKind

/-- The names of one kind that stand in the tables, at whatever ids. -/
def Tables.listed (t : Tables) : NameKind → List String
  | .keyword => t.keywords.map (·.value)
  | .reserved => t.reserved.map (·.value)
  | .operator => t.operators.map (·.value)
  | .systemVariable => t.systemVariables.map (·.value.name)
  | .preparable => t.preparable.map (·.value)

theorem Layer.Gives.mem_listed {l : Layer} {kind : NameKind} {name : String}
    (h : l.Gives kind name) : name ∈ l.tables.listed kind := by
  have hvalue : ∀ {t : Timeline String}, t.Has l.target name → name ∈ t.map (·.value) := by
    rintro t ⟨e, he, -, rfl⟩
    exact List.mem_map_of_mem he
  cases kind with
  | keyword => exact hvalue h
  | reserved => exact hvalue h
  | operator => exact hvalue h
  | systemVariable =>
      obtain ⟨v, ⟨e, he, -, rfl⟩, rfl⟩ := h
      exact List.mem_map.mpr ⟨e, he, rfl⟩
  | preparable => exact hvalue h

theorem Capabilities.mem_names_of_separate {c : Capabilities} {kind : NameKind} {name : String}
    (h : name ∈ c.separate.names kind) : name ∈ c.names kind := by
  cases kind with
  | keyword => exact (List.mem_filter.mp h).1
  | reserved => exact h
  | operator => exact h
  | systemVariable => exact h
  | preparable => exact h

/-! ## The names of the library -/

namespace Platform

/-- The platform was built from the catalog of the library; the version that it
shows may have been changed since. -/
def Shipped (p : Platform) : Prop :=
  ∃ f v q c, build Catalog.shipped f v = .ok q ∧ p = q.setCurrent c

theorem Shipped.mem_listed {p : Platform} (hp : p.Shipped) (kind : NameKind) {name : String}
    (h : name ∈ p.capabilities.names kind) :
    name ∈ Catalog.shipped.mysql.listed kind ++ Catalog.shipped.mariaDb.listed kind := by
  obtain ⟨f, v, q, c, hbuild, rfl⟩ := hp
  obtain ⟨layers, hlayers, hcapabilities⟩ := build_capabilities hbuild
  have hmem : name ∈ (Capabilities.stack layers).names kind := by
    rw [setCurrent, hcapabilities] at h
    exact Capabilities.mem_names_of_separate h
  obtain ⟨before, l, after, hsplit, hgives, -⟩ := Capabilities.mem_names_stack.mp hmem
  have hl : l ∈ layers := hsplit ▸ by simp
  rcases mem_layers_shipped hlayers hl with htables | htables
  · exact List.mem_append_left _ (htables ▸ hgives.mem_listed)
  · exact List.mem_append_right _ (htables ▸ hgives.mem_listed)

/-- Every entry of the tables of the library is in the letters of its kind. -/
theorem spelling_listed {kind : NameKind} {name : String}
    (h : name ∈ Catalog.shipped.mysql.listed kind ++ Catalog.shipped.mariaDb.listed kind) :
    kind.spelling name = name := by
  have hall : ((Catalog.shipped.mysql.listed kind ++ Catalog.shipped.mariaDb.listed kind).all
      fun name => (Text.bytes name).all (kind.keepsCode ·.toNat)) = true := by
    cases kind <;> decide +kernel
  exact NameKind.spelling_eq_self (List.all_eq_true.mp hall name h)

theorem Shipped.spelling_name {p : Platform} (hp : p.Shipped) (kind : NameKind) {name : String}
    (h : name ∈ p.capabilities.names kind) : kind.spelling name = name :=
  spelling_listed (hp.mem_listed kind h)

/-- Looking up the spelling of a name finds the names that are the same up to
case. -/
theorem Shipped.spelling_mem_iff {p : Platform} (hp : p.Shipped) (kind : NameKind) {s : String} :
    kind.spelling s ∈ p.capabilities.names kind ↔
      ∃ name ∈ p.capabilities.names kind, Text.sameName name s = true := by
  constructor
  · intro hmem
    exact ⟨_, hmem, kind.spelling_eq_iff.mp (hp.spelling_name kind hmem)⟩
  · rintro ⟨name, hname, hsame⟩
    rw [← kind.spelling_eq_iff.mpr hsame, hp.spelling_name kind hname]
    exact hname

/-! ## Reserved words -/

theorem Shipped.nameChar_of_reserved {p : Platform} (hp : p.Shipped) {w : String}
    (hw : w ∈ p.reservedWords) : ∀ c ∈ w.toList, ModeFlag.isNameChar c = true := by
  have hall : ((Catalog.shipped.mysql.listed .reserved
      ++ Catalog.shipped.mariaDb.listed .reserved).all
        fun name => (Text.bytes name).all (ModeFlag.isNameCode ·.toNat)) = true := by decide +kernel
  have hlisted := hp.mem_listed .reserved (mem_reservedWords.mp hw)
  exact ModeFlag.nameChar_of_bytes (List.all_eq_true.mp hall w hlisted)

theorem Shipped.upper_reserved {p : Platform} (hp : p.Shipped) {w : String}
    (hw : w ∈ p.reservedWords) : Text.upper w = w :=
  hp.spelling_name .reserved (mem_reservedWords.mp hw)

theorem Shipped.isReserved_iff {p : Platform} (hp : p.Shipped) {s : String} :
    p.isReserved s = true ↔
      ∃ w ∈ p.reservedWords, Text.sameName w (Text.trimmed s) = true := by
  rw [isReserved, List.contains_iff_mem]
  simp only [mem_reservedWords]
  exact hp.spelling_mem_iff .reserved

end Platform

end SqlDialect
