import Mathlib.Data.List.Induction
import Mathlib.Data.List.Nodup
import SqlDialect.Catalog.Shipped
import SqlDialect.Proofs.Builtin.Roster
import SqlDialect.Proofs.Timeline

/-!
# The meaning of stacked functions

`Builtin.merge` enters the active functions of its layers one after another into
a roster. What comes out can be said without the work: every name once, in the
order in which the names first appear, with the function that was listed last.

The roster's positions are dealt with in `Proofs/Builtin/Roster`; what is left is a
list in which each function is placed by its name (`merge_eq_gather`). The
argument is one invariant of that loop (`Gathered`), which a single `place` keeps
(`Gathered.place`). A layer on top of others then changes them in a simple way
(`merge_concat`): what it has too is replaced where it stands, and what only it
has comes after all of them.
-/

namespace SqlDialect

namespace Builtin

/-! ## One function -/

theorem names_place (f : Builtin) (fs : List Builtin) :
    (f.place fs).map name
      = if f.name ∈ fs.map name then fs.map name else fs.map name ++ [f.name] := by
  induction fs with
  | nil => simp [place]
  | cons g gs ih =>
      unfold place
      by_cases hg : g.name = f.name
      · simp [hg]
      · have hne : f.name ≠ g.name := Ne.symm hg
        rw [if_neg hg, List.map_cons, ih]
        by_cases hmem : f.name ∈ gs.map name
        · simp [hmem]
        · simp [hmem, hne]

/-- After `f` was placed, `f` is found by its name and all else as before. -/
theorem find?_place (f : Builtin) (fs : List Builtin) (n : String) :
    (f.place fs).find? (·.name == n)
      = if f.name = n then some f else fs.find? (·.name == n) := by
  induction fs with
  | nil =>
      by_cases hf : f.name = n
      · simp [place, hf]
      · simp [place, hf]
  | cons g gs ih =>
      unfold place
      by_cases hg : g.name = f.name
      · rw [if_pos hg]
        by_cases hf : f.name = n
        · simp [hf]
        · simp [hf, hg]
      · rw [if_neg hg, List.find?_cons, List.find?_cons, ih]
        by_cases hf : f.name = n
        · have hgn : (g.name == n) = false := by simpa [hf] using hg
          simp [hf, hgn]
        · simp [hf]

theorem place_append_of_mem {f : Builtin} {fs : List Builtin} (h : f.name ∈ fs.map name)
    (gs : List Builtin) : f.place (fs ++ gs) = f.place fs ++ gs := by
  induction fs with
  | nil => cases h
  | cons g fs ih =>
      unfold place
      by_cases hg : g.name = f.name
      · simp [hg]
      · have hmem : f.name ∈ fs.map name := List.mem_of_ne_of_mem (Ne.symm hg) h
        simp [hg, ih hmem]

theorem mem_names_iff {fs : List Builtin} {n : String} :
    n ∈ fs.map name ↔ (fs.find? (·.name == n)).isSome = true := by
  simp [List.find?_isSome]

theorem mem_iff_find? {fs : List Builtin} (h : (fs.map name).Nodup) {f : Builtin} :
    f ∈ fs ↔ fs.find? (·.name == f.name) = some f := by
  refine ⟨fun hf => ?_, List.mem_of_find?_eq_some⟩
  induction fs with
  | nil => cases hf
  | cons g gs ih =>
      obtain ⟨hg, hgs⟩ := List.nodup_cons.mp h
      rcases List.mem_cons.mp hf with rfl | hf
      · simp
      · have hne : g.name ≠ f.name := fun heq => hg (heq ▸ List.mem_map_of_mem hf)
        rw [List.find?_cons, beq_false_of_ne hne]
        exact ih hgs hf

/-! ## The loop -/

theorem gather_concat (fs new : List Builtin) (f : Builtin) :
    gather fs (new ++ [f]) = f.place (gather fs new) := by
  simp [gather]

/-- What the loop has made of `entries`: the names in the order in which they
first appear, and by each name the entry that was listed last. -/
structure Gathered (entries fs : List Builtin) : Prop where
  ordered : (fs.map name).Pairwise fun a b =>
    (entries.map name).idxOf a < (entries.map name).idxOf b
  last : ∀ n, fs.find? (·.name == n) = entries.reverse.find? (·.name == n)

theorem Gathered.mem_names {entries fs : List Builtin} (h : Gathered entries fs) {n : String} :
    n ∈ fs.map name ↔ n ∈ entries.map name := by
  rw [mem_names_iff, h.last, ← mem_names_iff, List.map_reverse, List.mem_reverse]

theorem Gathered.nodup {entries fs : List Builtin} (h : Gathered entries fs) :
    (fs.map name).Nodup := by
  refine List.Pairwise.imp (fun {a b} hlt => ?_) h.ordered
  rintro rfl
  exact Nat.lt_irrefl _ hlt

theorem gathered_nil : Gathered [] [] := ⟨List.Pairwise.nil, fun _ => rfl⟩

theorem Gathered.place {entries fs : List Builtin} (h : Gathered entries fs) (f : Builtin) :
    Gathered (entries ++ [f]) (f.place fs) := by
  have hearlier : ∀ a ∈ fs.map name,
      ((entries ++ [f]).map name).idxOf a = (entries.map name).idxOf a := by
    intro a ha
    rw [List.map_append, List.idxOf_append_of_mem (h.mem_names.mp ha)]
  have hkept : (fs.map name).Pairwise fun a b =>
      ((entries ++ [f]).map name).idxOf a < ((entries ++ [f]).map name).idxOf b := by
    refine h.ordered.imp_of_mem fun {a b} ha hb hlt => ?_
    rw [hearlier a ha, hearlier b hb]
    exact hlt
  refine ⟨?_, fun n => ?_⟩
  · rw [names_place]
    split
    · exact hkept
    · rename_i hnew
      refine List.pairwise_append.mpr ⟨hkept, List.pairwise_singleton _ _, fun a ha b hb => ?_⟩
      obtain rfl := List.mem_singleton.mp hb
      have hold : (entries.map name).idxOf a < (entries.map name).length :=
        List.idxOf_lt_length_iff.mpr (h.mem_names.mp ha)
      have hnew' : f.name ∉ entries.map name := fun hmem => hnew (h.mem_names.mpr hmem)
      rw [hearlier a ha, List.map_append, List.idxOf_append_of_notMem hnew']
      exact Nat.lt_of_lt_of_le hold (Nat.le_add_right _ _)
  · rw [find?_place, List.reverse_append, List.reverse_singleton, List.singleton_append,
      List.find?_cons, h.last]
    by_cases hf : f.name = n
    · simp [hf]
    · rw [if_neg hf, beq_false_of_ne hf]

theorem gathered_gather (entries : List Builtin) : Gathered entries (gather [] entries) := by
  induction entries using List.reverseRecOn with
  | nil => exact gathered_nil
  | append_singleton entries f ih =>
      rw [gather_concat]
      exact ih.place f

/-- Where no name is repeated, the loop changes nothing. -/
theorem gather_of_nodup {new fs : List Builtin} (h : ((fs ++ new).map name).Nodup) :
    gather fs new = fs ++ new := by
  induction new generalizing fs with
  | nil => exact (List.append_nil fs).symm
  | cons f new ih =>
      have hstep : gather fs (f :: new) = gather (f.place fs) new := rfl
      have hf : f.name ∉ fs.map name := by
        rw [List.map_append, List.map_cons] at h
        exact fun hmem => (List.nodup_append.mp h).2.2 _ hmem _ List.mem_cons_self rfl
      have happend : fs ++ f :: new = (fs ++ [f]) ++ new := by simp
      rw [hstep, place_of_not_mem hf, ih (happend ▸ h), happend]

/-! ## A layer on top -/

/-- The function of the same name in `own`, if there is one. -/
def overriddenBy (own : List Builtin) (f : Builtin) : Builtin :=
  (own.find? (·.name == f.name)).getD f

theorem name_overriddenBy (own : List Builtin) (f : Builtin) :
    (f.overriddenBy own).name = f.name := by
  unfold overriddenBy
  cases hfind : own.find? (·.name == f.name) with
  | none => rfl
  | some g => simpa using List.find?_some hfind

theorem names_overriddenBy (own fs : List Builtin) :
    (fs.map (overriddenBy own)).map name = fs.map name := by
  rw [List.map_map]
  exact List.map_congr_left fun f _ => name_overriddenBy own f

theorem overriddenBy_place (f g : Builtin) (own : List Builtin) :
    g.overriddenBy (f.place own) = if f.name = g.name then f else g.overriddenBy own := by
  rw [overriddenBy, find?_place]
  split
  · rfl
  · rfl

theorem map_overriddenBy_place_of_not_mem {f : Builtin} {fs : List Builtin}
    (h : f.name ∉ fs.map name) (own : List Builtin) :
    fs.map (overriddenBy (f.place own)) = fs.map (overriddenBy own) := by
  refine List.map_congr_left fun g hg => ?_
  have hne : f.name ≠ g.name := fun heq => h (heq ▸ List.mem_map_of_mem hg)
  rw [overriddenBy_place, if_neg hne]

theorem place_map_overriddenBy {f : Builtin} {fs : List Builtin} (h : f.name ∈ fs.map name)
    (hnodup : (fs.map name).Nodup) (own : List Builtin) :
    f.place (fs.map (overriddenBy own)) = fs.map (overriddenBy (f.place own)) := by
  induction fs with
  | nil => cases h
  | cons g fs ih =>
      obtain ⟨hg, hfs⟩ := List.nodup_cons.mp hnodup
      rw [List.map_cons, List.map_cons, place, name_overriddenBy, overriddenBy_place]
      by_cases heq : g.name = f.name
      · rw [if_pos heq, if_pos heq.symm, map_overriddenBy_place_of_not_mem (heq ▸ hg)]
      · have hmem : f.name ∈ fs.map name := List.mem_of_ne_of_mem (Ne.symm heq) h
        rw [if_neg heq, if_neg (Ne.symm heq), ih hmem hfs]

/-- Placing and then leaving out names is leaving them out and then placing,
unless the name is left out itself. -/
theorem filter_place (f : Builtin) (names : List String) (fs : List Builtin) :
    (f.place fs).filter (fun g => g.name ∉ names)
      = if f.name ∈ names then fs.filter (fun g => g.name ∉ names)
        else f.place (fs.filter fun g => g.name ∉ names) := by
  induction fs with
  | nil =>
      by_cases hf : f.name ∈ names
      · simp [place, hf]
      · simp [place, hf]
  | cons g fs ih =>
      have hstep : f.place (g :: fs) = if g.name = f.name then f :: fs else g :: f.place fs := rfl
      rw [hstep]
      by_cases heq : g.name = f.name
      · by_cases hf : f.name ∈ names
        · simp [heq, hf]
        · simp [heq, hf, place]
      · rw [if_neg heq, List.filter_cons, ih, List.filter_cons]
        by_cases hf : f.name ∈ names
        · simp [hf]
        · by_cases hg : g.name ∈ names
          · simp [hf, hg]
          · simp [hf, hg, place, heq]

theorem gather_eq_append {fs : List Builtin} (h : (fs.map name).Nodup) (new : List Builtin) :
    gather fs new
      = fs.map (overriddenBy (gather [] new))
        ++ (gather [] new).filter (fun f => f.name ∉ fs.map name) := by
  induction new using List.reverseRecOn with
  | nil =>
      have hself : fs.map (overriddenBy []) = fs.map id := List.map_congr_left fun _ _ => rfl
      simp [gather, hself]
  | append_singleton new f ih =>
      rw [gather_concat, gather_concat, ih, filter_place]
      by_cases hf : f.name ∈ fs.map name
      · have hnames : f.name ∈ (fs.map (overriddenBy (gather [] new))).map name := by
          rw [names_overriddenBy]
          exact hf
        rw [place_append_of_mem hnames, place_map_overriddenBy hf h, if_pos hf]
      · have hnames : f.name ∉ (fs.map (overriddenBy (gather [] new))).map name := by
          rw [names_overriddenBy]
          exact hf
        rw [place_append_of_not_mem hnames, map_overriddenBy_place_of_not_mem hf, if_neg hf]

/-! ## Layers -/

theorem gathered_merge (layers : List BuiltinLayer) :
    Gathered (entries layers) (merge layers) := by
  rw [merge_eq_gather]
  exact gathered_gather _

theorem mem_names_entries {layers : List BuiltinLayer} {n : String} :
    n ∈ (entries layers).map name ↔
      ∃ l ∈ layers, ∃ f, l.table.Has l.target f ∧ f.name = n := by
  simp only [entries, List.mem_map, List.mem_flatMap, BuiltinLayer.active, Timeline.mem_activeAt]
  constructor
  · rintro ⟨f, ⟨l, hl, hf⟩, hn⟩
    exact ⟨l, hl, f, hf, hn⟩
  · rintro ⟨l, hl, f, hf, hn⟩
    exact ⟨f, ⟨l, hl, hf⟩, hn⟩

theorem find?_reverse_entries_cons (l : BuiltinLayer) (rest : List BuiltinLayer) (n : String) :
    (entries (l :: rest)).reverse.find? (·.name == n)
      = ((entries rest).reverse.find? (·.name == n)).or (l.active.reverse.find? (·.name == n)) := by
  rw [entries, List.flatMap_cons, List.reverse_append, List.find?_append, ← entries]

/-- Searching from the end finds what no later entry of the same name follows. -/
theorem find?_reverse_eq_some_iff {es : List Builtin} {f : Builtin} :
    es.reverse.find? (·.name == f.name) = some f ↔
      ∃ front back, es = front ++ f :: back ∧ ∀ g ∈ back, g.name ≠ f.name := by
  rw [List.find?_eq_some_iff_append]
  constructor
  · rintro ⟨-, back, front, hsplit, hback⟩
    refine ⟨front.reverse, back.reverse, ?_, fun g hg => ?_⟩
    · have hreverse := congrArg List.reverse hsplit
      simpa using hreverse
    · simpa using hback g (List.mem_reverse.mp hg)
  · rintro ⟨front, back, rfl, hback⟩
    refine ⟨by simp, back.reverse, front.reverse, by simp, fun g hg => ?_⟩
    simpa using hback g (List.mem_reverse.mp hg)

theorem merge_concat_eq_gather (layers : List BuiltinLayer) (l : BuiltinLayer) :
    merge (layers ++ [l]) = gather (merge layers) l.active := by
  rw [merge_eq_gather, merge_eq_gather]
  simp [entries, gather]

/-- A layer on top replaces what it has too where it stands, and adds what only
it has. -/
theorem merge_concat (layers : List BuiltinLayer) (l : BuiltinLayer) :
    merge (layers ++ [l])
      = (merge layers).map (overriddenBy (merge [l]))
        ++ (merge [l]).filter (fun f => f.name ∉ (merge layers).map name) := by
  have hown : merge [l] = gather [] l.active := merge_concat_eq_gather [] l
  rw [merge_concat_eq_gather, hown]
  exact gather_eq_append (gathered_merge layers).nodup _

/-- A layer alone gives its active functions, if no two of them share a name. -/
theorem merge_singleton {l : BuiltinLayer} (h : (l.table.map (·.value.name)).Nodup) :
    merge [l] = l.active := by
  have hnames : (l.active.map name).Nodup := by
    have hsub := (Timeline.activeAt_sublist l.table l.target).map name
    rw [List.map_map] at hsub
    exact hsub.nodup h
  have hown : merge [l] = gather [] l.active := merge_concat_eq_gather [] l
  rw [hown, gather_of_nodup (by simpa using hnames), List.nil_append]

/-! ## The functions of the library -/

/-- The bytes of a name as one number: numbers are compared faster than texts. -/
def nameCode (n : String) : Nat :=
  n.toByteArray.data.toList.foldl (fun code b => code * 256 + b.toNat) 0

theorem nodup_of_codes {table : Timeline Builtin}
    (h : (table.map (nameCode ·.value.name)).Nodup) : (table.map (·.value.name)).Nodup := by
  have hcodes : table.map (nameCode ·.value.name) = (table.map (·.value.name)).map nameCode := by
    simp
  exact List.Nodup.of_map nameCode (hcodes ▸ h)

theorem nodup_mysql : (Catalog.shipped.mysqlBuiltins.map (·.value.name)).Nodup :=
  nodup_of_codes (by decide +kernel)

theorem nodup_mariaDb : (Catalog.shipped.mariaDbBuiltins.map (·.value.name)).Nodup :=
  nodup_of_codes (by decide +kernel)

theorem builtins_mysql (target : VersionId) :
    Catalog.shipped.builtins .mysql target = Catalog.shipped.mysqlBuiltins.activeAt target :=
  merge_singleton nodup_mysql

theorem builtins_mariaDb {target base : VersionId}
    (hbase : Family.mariaDb.baseline? target = some base) :
    Catalog.shipped.builtins .mariaDb target
      = (Catalog.shipped.mysqlBuiltins.activeAt base).map
          (overriddenBy (Catalog.shipped.mariaDbBuiltins.activeAt target))
        ++ (Catalog.shipped.mariaDbBuiltins.activeAt target).filter
          (fun f => f.name ∉ (Catalog.shipped.mysqlBuiltins.activeAt base).map name) := by
  have hlayers : Catalog.shipped.builtins .mariaDb target
      = merge ([⟨Catalog.shipped.mysqlBuiltins, base⟩]
          ++ [⟨Catalog.shipped.mariaDbBuiltins, target⟩]) := by
    rw [Catalog.builtins, Catalog.builtinLayers, hbase]
    rfl
  have hinherited : merge [⟨Catalog.shipped.mysqlBuiltins, base⟩]
      = Catalog.shipped.mysqlBuiltins.activeAt base := merge_singleton nodup_mysql
  have hown : merge [⟨Catalog.shipped.mariaDbBuiltins, target⟩]
      = Catalog.shipped.mariaDbBuiltins.activeAt target := merge_singleton nodup_mariaDb
  rw [hlayers, merge_concat, hinherited, hown]

theorem exists_baseline (target : VersionId) :
    ∃ base, Family.mariaDb.baseline? target = some base := by
  unfold Family.baseline?
  simp only
  split
  · exact ⟨_, rfl⟩
  · split
    · exact ⟨_, rfl⟩
    · exact ⟨_, rfl⟩

/-! ## The headline theorem -/

/-- **First place, last word.** After any entries the positions of a roster are
those of the names among its functions. Layers are entered in order, each in the
order of its table: no name is repeated, the names stand in the order in which they
are listed first, and the function of a name is the active one that is listed last.
MariaDB lists the functions of MySQL at its baseline first, each in its own version
if it has one, and then those that only MariaDB has. -/
theorem merge_first_place_last_word :
    (∀ (es : List Builtin) (n : String) (i : Nat),
      (es.foldl Roster.enter .empty).positions.lookup n = some i ↔
        ∃ f, (es.foldl Roster.enter .empty).functions[i]? = some f ∧ f.name = n)
    ∧ (∀ layers : List BuiltinLayer,
      merge layers = ((entries layers).foldl Roster.enter .empty).functions.toList
      ∧ ((merge layers).map name).Nodup
      ∧ (∀ n, n ∈ (merge layers).map name ↔
        ∃ l ∈ layers, ∃ f, l.table.Has l.target f ∧ f.name = n)
      ∧ (∀ f, f ∈ merge layers ↔
        ∃ front back, entries layers = front ++ f :: back ∧ ∀ g ∈ back, g.name ≠ f.name)
      ∧ ((merge layers).map name).Pairwise fun a b =>
        ((entries layers).map name).idxOf a < ((entries layers).map name).idxOf b)
    ∧ ∀ target, ∃ base, Family.mariaDb.baseline? target = some base
      ∧ Catalog.shipped.builtins .mariaDb target
        = (Catalog.shipped.mysqlBuiltins.activeAt base).map
            (overriddenBy (Catalog.shipped.mariaDbBuiltins.activeAt target))
          ++ (Catalog.shipped.mariaDbBuiltins.activeAt target).filter
            (fun f => f.name ∉ (Catalog.shipped.mysqlBuiltins.activeAt base).map name) := by
  refine ⟨fun es n i => ?_, fun layers => ?_, fun target => ?_⟩
  · rw [(Roster.inStep_foldl es Roster.inStep_empty).lookup_iff]
  · have hmerge := gathered_merge layers
    refine ⟨?_, hmerge.nodup, fun n => ?_, fun f => ?_, hmerge.ordered⟩
    · rw [merge, Roster.ofLayers_eq_foldl]
    · rw [hmerge.mem_names, mem_names_entries]
    · rw [mem_iff_find? hmerge.nodup, hmerge.last, find?_reverse_eq_some_iff]
  · obtain ⟨base, hbase⟩ := exists_baseline target
    exact ⟨base, hbase, builtins_mariaDb hbase⟩

example :
    merge [⟨[.always (scalarAny "A"), .always (scalarAny "B")], 0⟩,
        ⟨[.always (scalarAny "C"), .since (scalarAny "B") 2, .always (windowAny "A")], 1⟩]
      = [windowAny "A", scalarAny "B", scalarAny "C"] := by decide +kernel

end Builtin

end SqlDialect
