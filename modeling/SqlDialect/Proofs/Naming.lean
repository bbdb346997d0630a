import Mathlib.Data.List.Nodup
import Mathlib.Data.Nat.Find
import Mathlib.Order.Bounds.Basic
import SqlDialect.Naming
import SqlDialect.Proofs.Text.Case
import SqlDialect.Proofs.Text.Number

/-!
# Made-up names

A made-up name is the first free one of a series of names, numbered from `1` on. The
search for it gives up after so many tries that this cannot matter, and that is what has
to be shown: the names of a series differ from each other even up to case (`Apart`), so
of any `existing.length + 1` of them one is free (`exists_free`), and the search comes
to the first one (`freeFrom_eq`).

There are two kinds of series: a stem with a number (`numberedName`), and a base that
stands for itself first and has a number behind it later (`suffixedName`). Every
convention uses one of the two (`nameFor_cases`).

The first free name depends on nothing but which names are free, so neither the order of
the existing names nor repetitions among them count. A name that is made up is taken
from then on, and the next ones differ from it.
-/

namespace SqlDialect

theorem Text.lower_toString (n : Nat) : lower (toString n) = toString n := by
  refine lower_eq_self fun c hc => ?_
  have hdigit := isDigit_iff.mpr (digits_toString c hc)
  simp only [isDigit, isUpperLetter, Bool.and_eq_true, Bool.and_eq_false_iff, decide_eq_true_eq,
    decide_eq_false_iff_not] at hdigit ⊢
  omega

namespace Naming

/-! ## Free names -/

/-- No existing name is `name`, up to the case of `A`-`Z`. -/
def Free (existing : List String) (name : String) : Prop :=
  ∀ e ∈ existing, Text.sameName e name = false

theorem isTaken_eq_false_iff {existing : List String} {name : String} :
    isTaken existing name = false ↔ Free existing name := by
  simp [isTaken, Free]

instance (existing : List String) (name : String) : Decidable (Free existing name) :=
  decidable_of_iff _ isTaken_eq_false_iff

theorem isTaken_eq_true_iff {existing : List String} {name : String} :
    isTaken existing name = true ↔ ¬Free existing name := by
  rw [← isTaken_eq_false_iff, Bool.not_eq_false]

/-- `k` is the least number, from `1` on, whose name is free. -/
def FirstFree (existing : List String) (series : Nat → String) (k : Nat) : Prop :=
  IsLeast {j | 1 ≤ j ∧ Free existing (series j)} k

/-- The names of the series differ from each other, even up to case. -/
def Apart (series : Nat → String) : Prop :=
  ∀ i j, 1 ≤ i → 1 ≤ j → Text.sameName (series i) (series j) = true → i = j

variable {existing : List String} {series : Nat → String}

/-- There are more names in the series than existing ones: one that is free is among
the first `existing.length + 1`. -/
theorem exists_free (h : Apart series) (existing : List String) :
    ∃ k, 1 ≤ k ∧ k ≤ existing.length + 1 ∧ Free existing (series k) := by
  by_contra hnone
  have htaken : ∀ j < existing.length + 1, ¬Free existing (series (j + 1)) := fun j hj hfree =>
    hnone ⟨j + 1, Nat.le_add_left 1 j, hj, hfree⟩
  -- all these names, in small letters, are different and among the existing ones
  have hnodup :
      ((List.range (existing.length + 1)).map fun j => Text.lower (series (j + 1))).Nodup := by
    refine List.Nodup.map_on (fun i _ j _ heq => ?_) List.nodup_range
    have hsucc := h (i + 1) (j + 1) (Nat.le_add_left 1 i) (Nat.le_add_left 1 j)
      (Text.sameName_iff_lower.mpr heq)
    exact Nat.succ.inj hsucc
  have hsubset : ((List.range (existing.length + 1)).map fun j => Text.lower (series (j + 1)))
      ⊆ existing.map Text.lower := by
    intro name hname
    obtain ⟨j, hj, rfl⟩ := List.mem_map.mp hname
    have htaken := isTaken_eq_true_iff.mpr (htaken j (List.mem_range.mp hj))
    obtain ⟨e, he, hsame⟩ := List.any_eq_true.mp htaken
    exact List.mem_map.mpr ⟨e, he, Text.sameName_iff_lower.mp hsame⟩
  have hlength := hnodup.length_le_of_subset hsubset
  rw [List.length_map, List.length_map, List.length_range] at hlength
  omega

theorem exists_firstFree (h : Apart series) (existing : List String) :
    ∃ k, FirstFree existing series k ∧ k ≤ existing.length + 1 := by
  obtain ⟨k, hk, hle, hfree⟩ := exists_free h existing
  have hexists : ∃ j, 1 ≤ j ∧ Free existing (series j) := ⟨k, hk, hfree⟩
  refine ⟨Nat.find hexists, ⟨Nat.find_spec hexists, fun j hj => Nat.find_min' hexists hj⟩, ?_⟩
  exact Nat.le_trans (Nat.find_min' hexists ⟨hk, hfree⟩) hle

/-- The search finds the first free name if it is within its tries. -/
theorem freeFrom_eq {tries n k : Nat} (hfree : Free existing (series k)) (hn : n ≤ k)
    (hk : k ≤ n + tries) (htaken : ∀ j, n ≤ j → j < k → ¬Free existing (series j)) :
    freeFrom existing series tries n = series k := by
  induction tries generalizing n with
  | zero =>
      obtain rfl : k = n := Nat.le_antisymm hk hn
      rfl
  | succ tries ih =>
      rw [freeFrom]
      rcases Nat.lt_or_eq_of_le hn with hlt | rfl
      · rw [if_pos (isTaken_eq_true_iff.mpr (htaken n (Nat.le_refl n) hlt))]
        exact ih hlt (by omega) fun j hj hjk => htaken j (by omega) hjk
      · rw [if_neg (by rw [isTaken_eq_false_iff.mpr hfree]; decide)]

/-! ## The two kinds of series -/

def numberedName (stem : String) (k : Nat) : String := stem ++ toString k

/-- The base itself, and from `2` on the base with a number. -/
def suffixedName (base : String) (k : Nat) : String :=
  if k = 1 then base else numberedName (base ++ "_") k

theorem numberedName_inj {stem : String} {i j : Nat}
    (h : Text.sameName (numberedName stem i) (numberedName stem j) = true) : i = j := by
  rw [Text.sameName_iff_lower, numberedName, numberedName, Text.lower_append, Text.lower_append,
    Text.lower_toString, Text.lower_toString, String.append_right_inj] at h
  exact Text.toString_toList_inj.mp (congrArg String.toList h)

theorem apart_numberedName (stem : String) : Apart (numberedName stem) :=
  fun _ _ _ _ => numberedName_inj

theorem not_sameName_base (base : String) (k : Nat) :
    Text.sameName base (numberedName (base ++ "_") k) = false := by
  rw [← Bool.not_eq_true, Text.sameName_iff_lower]
  intro h
  have hlength := congrArg (fun s => s.toList.length) h
  simp only [Text.length_lower, numberedName, String.toList_append, List.length_append] at hlength
  have hunderscore : "_".toList.length = 1 := rfl
  omega

theorem apart_suffixedName (base : String) : Apart (suffixedName base) := by
  intro i j _ _ h
  by_cases hi : i = 1
  · by_cases hj : j = 1
    · rw [hi, hj]
    · rw [suffixedName, suffixedName, if_pos hi, if_neg hj, not_sameName_base] at h
      cases h
  · by_cases hj : j = 1
    · rw [suffixedName, suffixedName, if_neg hi, if_pos hj, Text.sameName_comm,
        not_sameName_base] at h
      cases h
    · rw [suffixedName, suffixedName, if_neg hi, if_neg hj] at h
      exact numberedName_inj h

/-! ## What a series makes -/

theorem numbered_eq {stem : String} {k : Nat} (h : FirstFree existing (numberedName stem) k)
    (hk : k ≤ existing.length + 1) : numbered existing stem = numberedName stem k := by
  obtain ⟨⟨hone, hfree⟩, hleast⟩ := h
  have hsearch : numbered existing stem
      = freeFrom existing (numberedName stem) existing.length 1 := rfl
  rw [hsearch]
  refine freeFrom_eq hfree hone (by omega) ?_
  intro j hj hjk hjfree
  exact absurd (hleast ⟨hj, hjfree⟩) (by omega)

theorem suffixed_eq {base : String} {k : Nat} (h : FirstFree existing (suffixedName base) k)
    (hk : k ≤ existing.length + 1) : suffixed existing base = suffixedName base k := by
  obtain ⟨⟨hone, hfree⟩, hleast⟩ := h
  have hbase : suffixedName base 1 = base := if_pos rfl
  have hnumber : ∀ {j : Nat}, 2 ≤ j → suffixedName base j = numberedName (base ++ "_") j :=
    fun hj => if_neg (by omega)
  have hsearch : suffixed existing base = if isTaken existing base
      then freeFrom existing (numberedName (base ++ "_")) existing.length 2 else base := rfl
  rw [hsearch]
  rcases Nat.lt_or_eq_of_le hone with htwo | rfl
  · have htaken : ¬Free existing base := fun hfree =>
      absurd (hleast ⟨Nat.le_refl 1, hbase.symm ▸ hfree⟩) (by omega)
    rw [if_pos (isTaken_eq_true_iff.mpr htaken), hnumber htwo]
    rw [hnumber htwo] at hfree
    refine freeFrom_eq hfree htwo (by omega) ?_
    intro j hj hjk hjfree
    rw [← hnumber hj] at hjfree
    exact absurd (hleast ⟨by omega, hjfree⟩) (by omega)
  · rw [hbase] at hfree ⊢
    rw [if_neg (by rw [isTaken_eq_false_iff.mpr hfree]; decide)]

/-! ## Conventions -/

/-- Something that was left unnamed. -/
inductive Unnamed where
  | index (table : String) (columns : List String)
  | foreignKey (table : String)
  | check (table : String)
deriving Repr, DecidableEq

/-- The name that is made up for it. -/
def nameFor (n : Naming) (existing : List String) : Unnamed → String
  | .index table columns => n.indexName table columns existing
  | .foreignKey table => n.foreignKeyName table existing
  | .check table => n.checkName table existing

/-- The names that it can get, in the order in which they are tried. -/
def candidate : Naming → Unnamed → Nat → String
  | .mysql, .index table columns | .mariaDb, .index table columns =>
    suffixedName (columns.head?.getD table)
  | .mysql, .foreignKey table | .mariaDb, .foreignKey table => numberedName (table ++ "_ibfk_")
  | .mysql, .check table => numberedName (table ++ "_chk_")
  | .mariaDb, .check _ => numberedName "CONSTRAINT_"
  | .standard, .index table _ => numberedName (Naming.standard.fold table ++ "_IDX_")
  | .standard, .foreignKey table => numberedName (Naming.standard.fold table ++ "_FK_")
  | .standard, .check table => numberedName (Naming.standard.fold table ++ "_CHK_")

/-- Every convention makes up names of one of the two kinds. -/
theorem nameFor_cases (n : Naming) (u : Unnamed) :
    (∃ stem, n.candidate u = numberedName stem
      ∧ ∀ existing, n.nameFor existing u = numbered existing stem)
    ∨ ∃ base, n.candidate u = suffixedName base
      ∧ ∀ existing, n.nameFor existing u = suffixed existing base := by
  cases u with
  | index table columns =>
      cases n with
      | mysql => exact Or.inr ⟨_, rfl, fun _ => rfl⟩
      | mariaDb => exact Or.inr ⟨_, rfl, fun _ => rfl⟩
      | standard => exact Or.inl ⟨_, rfl, fun _ => rfl⟩
  | foreignKey table => cases n <;> exact Or.inl ⟨_, rfl, fun _ => rfl⟩
  | check table => cases n <;> exact Or.inl ⟨_, rfl, fun _ => rfl⟩

/-- The name that is made up is the first free one of its series, and found in time. -/
theorem exists_nameFor_eq (n : Naming) (u : Unnamed) (existing : List String) :
    ∃ k, FirstFree existing (n.candidate u) k ∧ k ≤ existing.length + 1
      ∧ n.nameFor existing u = n.candidate u k := by
  rcases nameFor_cases n u with ⟨stem, hseries, hname⟩ | ⟨base, hseries, hname⟩
  · obtain ⟨k, hfirst, hk⟩ := exists_firstFree (apart_numberedName stem) existing
    rw [hseries, hname]
    exact ⟨k, hfirst, hk, numbered_eq hfirst hk⟩
  · obtain ⟨k, hfirst, hk⟩ := exists_firstFree (apart_suffixedName base) existing
    rw [hseries, hname]
    exact ⟨k, hfirst, hk, suffixed_eq hfirst hk⟩

theorem free_nameFor (n : Naming) (u : Unnamed) (existing : List String) :
    Free existing (n.nameFor existing u) := by
  obtain ⟨k, hfirst, -, hname⟩ := exists_nameFor_eq n u existing
  rw [hname]
  exact hfirst.1.2

theorem nameFor_congr (n : Naming) (u : Unnamed) {existing existing' : List String}
    (h : ∀ e, e ∈ existing ↔ e ∈ existing') : n.nameFor existing u = n.nameFor existing' u := by
  have hfree : ∀ name, Free existing name ↔ Free existing' name := fun name =>
    forall_congr' fun e => imp_congr_left (h e)
  obtain ⟨k, hfirst, -, hname⟩ := exists_nameFor_eq n u existing
  obtain ⟨k', hfirst', -, hname'⟩ := exists_nameFor_eq n u existing'
  simp only [FirstFree, ← hfree] at hfirst'
  rw [hname, hname', hfirst.unique hfirst']

/-! ## Many names -/

/-- The names that are made up one after the other, each of which exists for those that
come after it. -/
def nameAll (n : Naming) : List String → List Unnamed → List String
  | _, [] => []
  | existing, u :: us =>
    n.nameFor existing u :: n.nameAll (existing ++ [n.nameFor existing u]) us

theorem length_nameAll (n : Naming) (existing : List String) (us : List Unnamed) :
    (n.nameAll existing us).length = us.length := by
  induction us generalizing existing with
  | nil => rfl
  | cons u us ih => rw [nameAll, List.length_cons, List.length_cons, ih]

theorem free_append_singleton {existing : List String} {e name : String} :
    Free (existing ++ [e]) name ↔ Free existing name ∧ Text.sameName e name = false := by
  simp [Free, or_imp, forall_and]

theorem free_of_mem_nameAll (n : Naming) {existing : List String} {us : List Unnamed}
    {name : String} (h : name ∈ n.nameAll existing us) : Free existing name := by
  induction us generalizing existing with
  | nil => cases h
  | cons u us ih =>
      rcases List.mem_cons.mp h with rfl | hrest
      · exact free_nameFor n u existing
      · exact (free_append_singleton.mp (ih hrest)).1

theorem pairwise_nameAll (n : Naming) (existing : List String) (us : List Unnamed) :
    (n.nameAll existing us).Pairwise fun a b => Text.sameName a b = false := by
  induction us generalizing existing with
  | nil => exact List.Pairwise.nil
  | cons u us ih =>
      refine List.Pairwise.cons ?_ (ih _)
      intro later hlater
      exact (free_append_singleton.mp (free_of_mem_nameAll n hlater)).2

/-! ## The headline theorem -/

/-- **The first free name.** The name that is made up is the first free one of its
series, whose number is at most one more than there are existing names. Neither the
order of these nor repetitions among them make a difference, and names that are made
up one after the other are all different, even up to case. -/
theorem made_up_names_first_free (n : Naming) (existing : List String) :
    (∀ u, Free existing (n.nameFor existing u)
      ∧ ∃ k, IsLeast {j | 1 ≤ j ∧ Free existing (n.candidate u j)} k ∧ k ≤ existing.length + 1
        ∧ n.nameFor existing u = n.candidate u k)
    ∧ (∀ u existing', (∀ e, e ∈ existing ↔ e ∈ existing') →
      n.nameFor existing u = n.nameFor existing' u)
    ∧ ∀ us, (n.nameAll existing us).length = us.length
      ∧ ((n.nameAll existing us).Pairwise fun a b => Text.sameName a b = false)
      ∧ ∀ name ∈ n.nameAll existing us, Free existing name := by
  refine ⟨?_, ?_, ?_⟩
  · intro u
    exact ⟨free_nameFor n u existing, exists_nameFor_eq n u existing⟩
  · intro u existing' h
    exact nameFor_congr n u h
  · intro us
    exact ⟨length_nameAll n existing us, pairwise_nameAll n existing us,
      fun name => free_of_mem_nameAll n⟩

/-- `a` is taken in another case, and so are its first two numbers; in another order and
with repetitions the names that exist lead to the same name, and the next one differs. -/
theorem made_up_names_first_free_index :
    (∀ e, e ∈ ["A", "a_3", "a_2"] ↔ e ∈ ["a_2", "A", "a_3", "A"])
    ∧ Naming.mysql.indexName "t" ["a", "b"] ["A", "a_3", "a_2"] = "a_4"
    ∧ Naming.mysql.indexName "t" ["a", "b"] ["a_2", "A", "a_3", "A"] = "a_4"
    ∧ Text.sameName "a_4" "a_5" = false := by
  obtain ⟨-, hsame, hrow⟩ := made_up_names_first_free .mysql ["A", "a_3", "a_2"]
  have hmem : ∀ e, e ∈ ["A", "a_3", "a_2"] ↔ e ∈ ["a_2", "A", "a_3", "A"] := by
    intro e
    simp only [List.mem_cons, List.not_mem_nil, or_false]
    tauto
  have hname : Naming.mysql.indexName "t" ["a", "b"] ["A", "a_3", "a_2"] = "a_4" := by
    decide +kernel
  have hnames : Naming.mysql.nameAll ["A", "a_3", "a_2"] [.index "t" ["a"], .index "u" ["a"]]
      = ["a_4", "a_5"] := by decide +kernel
  obtain ⟨-, hpairwise, -⟩ := hrow [.index "t" ["a"], .index "u" ["a"]]
  rw [hnames] at hpairwise
  exact ⟨hmem, hname, (hsame (.index "t" ["a", "b"]) _ hmem).symm.trans hname,
    List.rel_of_pairwise_cons hpairwise (List.mem_singleton.mpr rfl)⟩

end Naming

end SqlDialect
