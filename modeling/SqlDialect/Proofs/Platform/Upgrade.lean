import Mathlib.Data.List.Forall2
import Mathlib.Tactic.SplitIfs
import SqlDialect.Proofs.Platform.Build
import SqlDialect.Proofs.Pool.Transparency
import SqlDialect.Proofs.Timeline.Succession
import SqlDialect.Proofs.Version.Number

/-!
# What an upgrade keeps

A later version of a family has every type and every operator of an earlier one,
and names may be at least as long. The two versions are resolved from the same
tables, read at two ids, layer by layer; so the argument compares the two runs of
the resolution.

- `Capabilities.Within` relates what the runs have made so far.
- One layer keeps it (`Within.apply`) if the layer is read no earlier the second
  time (`Layer.Later`) and its tables only grow (`Tables.Growing`): nothing in
  them breaks off, withdrawals of operators were there from the start, and limits
  rise. A limit that a layer puts over an inherited one must not be below it.
- Hence all layers keep it (`Within.foldl`).

That the layers are read no earlier is not plain for MariaDB, because the ids at
which it reads the tables of MySQL do not rise with its own: from 5.7 on they
would fall back at 10.0. No supported version lies there (`Family.id_mariaDb`),
and outside that gap they do rise (`Family.baseline_mariaDb_mono`).
-/

namespace SqlDialect

/-! ## Tables that only grow -/

namespace Tables

/-- What the tables have at some id they have at every later one, with limits at
least as high; and no operator is withdrawn only later. -/
structure Growing (t : Tables) : Prop where
  types : t.types.Unbroken id
  operators : t.operators.Unbroken id
  withdrawn : ∀ e ∈ t.withdrawn, e.value.kind = .operator → e.introduced = VersionId.least
  limits : t.limits.Unbroken Prod.fst
  rising : ∀ e ∈ t.limits, ∀ e' ∈ t.limits, e.value.1 = e'.value.1 →
    e.introduced ≤ e'.removed → e.value.2 ≤ e'.value.2

/-- Of one kind, the limits of `u` are at least those of `t`. -/
def LimitsBelow (t u : Tables) : Prop :=
  ∀ e ∈ t.limits, ∀ e' ∈ u.limits, e.value.1 = e'.value.1 → e.value.2 ≤ e'.value.2

theorem growing_mysql : Catalog.shipped.mysql.Growing where
  types := by decide +kernel
  operators := by decide +kernel
  withdrawn := by decide +kernel
  limits := by decide +kernel
  rising := by decide +kernel

theorem growing_mariaDb : Catalog.shipped.mariaDb.Growing where
  types := by decide +kernel
  operators := by decide +kernel
  withdrawn := by decide +kernel
  limits := by decide +kernel
  rising := by decide +kernel

theorem limitsBelow_mysql_mariaDb : Catalog.shipped.mysql.LimitsBelow Catalog.shipped.mariaDb := by
  unfold LimitsBelow
  decide +kernel

end Tables

/-- The same tables, read no earlier. -/
structure Layer.Later (l l' : Layer) : Prop where
  tables_eq : l'.tables = l.tables
  target_le : l.target ≤ l'.target
  target_le_greatest : l'.target ≤ VersionId.greatest

namespace Capabilities

/-! ## One layer -/

/-- Every type and operator of `c` is one of `d`, and every limit of `c` is one
of `d`, at least as high. -/
structure Within (c d : Capabilities) : Prop where
  types : ∀ t ∈ c.types, t ∈ d.types
  operators : ∀ o ∈ c.names .operator, o ∈ d.names .operator
  limits : ∀ kind n, c.limit? kind = some n → ∃ m, d.limit? kind = some m ∧ n ≤ m

theorem within_nothing : nothing.Within nothing where
  types := fun _ h => h
  operators := fun _ h => h
  limits := fun _ n h => ⟨n, h, Nat.le_refl n⟩

/-- The limits of `c` are at most those of the tables `u`, of one kind. -/
def LimitsBelow (c : Capabilities) (u : Tables) : Prop :=
  ∀ kind n, c.limit? kind = some n → ∀ e ∈ u.limits, e.value.1 = kind → n ≤ e.value.2

theorem limitsBelow_nothing (u : Tables) : nothing.LimitsBelow u := by
  intro kind n h
  cases h

theorem LimitsBelow.apply {c : Capabilities} {u : Tables} (hc : c.LimitsBelow u) {l : Layer}
    (hl : l.tables.LimitsBelow u) : (c.apply l).LimitsBelow u := by
  intro kind n hn e he hkind
  rcases limit?_apply_cases c l kind with ⟨m, ⟨own, hown, -, hvalue⟩, hlimit⟩ | ⟨-, hlimit⟩
  · rw [hlimit] at hn
    cases hn
    have hle := hl own hown e he (by rw [hvalue, hkind])
    rwa [hvalue] at hle
  · exact hc kind n (hlimit ▸ hn) e he hkind

section

variable {c d : Capabilities} {tables : Tables} {a b : VersionId}

theorem operators_apply (hcd : c.Within d) (hgrowing : tables.Growing) (hle : a ≤ b)
    (hend : b ≤ VersionId.greatest) {o : String} (ho : o ∈ (c.apply ⟨tables, a⟩).names .operator) :
    o ∈ (d.apply ⟨tables, b⟩).names .operator := by
  have hlasting : tables.Lasting .operator := ⟨hgrowing.operators, hgrowing.withdrawn⟩
  exact hlasting.mem_names_apply hle hend (hcd.operators o) ho

theorem limits_apply (hcd : c.Within d) (hgrowing : tables.Growing) (hbelow : c.LimitsBelow tables)
    (hle : a ≤ b) (hend : b ≤ VersionId.greatest) {kind : ObjectKind} {n : Nat}
    (hn : (c.apply ⟨tables, a⟩).limit? kind = some n) :
    ∃ m, (d.apply ⟨tables, b⟩).limit? kind = some m ∧ n ≤ m := by
  rcases limit?_apply_cases d ⟨tables, b⟩ kind with ⟨m, ⟨e', he', hspans', hvalue'⟩, hm⟩ | ⟨hnone, hm⟩
  · -- the tables have a limit at `b`: it is no lower than theirs at `a`, or the inherited one
    refine ⟨m, hm, ?_⟩
    rcases limit?_apply_cases c ⟨tables, a⟩ kind with ⟨n', ⟨e, he, hspans, hvalue⟩, hn'⟩ | ⟨-, hn'⟩
    · obtain rfl := Option.some.inj (hn'.symm.trans hn)
      have hrise := hgrowing.rising e he e' he' (by rw [hvalue, hvalue'])
        (Nat.le_trans hspans.1 (Nat.le_trans hle hspans'.2))
      rwa [hvalue, hvalue'] at hrise
    · have hroom := hbelow kind n (hn' ▸ hn) e' he' (by rw [hvalue'])
      rwa [hvalue'] at hroom
  · rcases limit?_apply_cases c ⟨tables, a⟩ kind with ⟨n', hown, -⟩ | ⟨-, hn'⟩
    · obtain ⟨⟨kind', m⟩, hlater, rfl⟩ := hgrowing.limits.has hle hend hown
      exact absurd hlater (hnone m)
    · rw [hm]
      exact hcd.limits kind n (hn' ▸ hn)

/-- A layer of growing tables, read no earlier the second time, keeps what is
within. -/
theorem Within.apply (hcd : c.Within d) (hgrowing : tables.Growing) (hbelow : c.LimitsBelow tables)
    (hle : a ≤ b) (hend : b ≤ VersionId.greatest) :
    (c.apply ⟨tables, a⟩).Within (d.apply ⟨tables, b⟩) where
  types := by
    intro t ht
    rw [mem_types_apply] at ht ⊢
    rcases ht with hown | hkept
    · obtain ⟨t', ht', rfl⟩ := hgrowing.types.has hle hend hown
      exact Or.inl ht'
    · exact Or.inr (hcd.types t hkept)
  operators := fun _ => operators_apply hcd hgrowing hle hend
  limits := fun _ _ => limits_apply hcd hgrowing hbelow hle hend

end

/-! ## All layers -/

theorem Within.foldl {layers layers' : List Layer} (hlater : List.Forall₂ Layer.Later layers layers')
    (hgrowing : ∀ l ∈ layers, l.tables.Growing)
    (hbelow : layers.Pairwise fun l m => l.tables.LimitsBelow m.tables) {c d : Capabilities}
    (hcd : c.Within d) (hc : ∀ l ∈ layers, c.LimitsBelow l.tables) :
    (layers.foldl Capabilities.apply c).Within (layers'.foldl Capabilities.apply d) := by
  induction hlater generalizing c d with
  | nil => exact hcd
  | @cons l l' rest rest' hl _ ih =>
      obtain ⟨tables, b⟩ := l'
      obtain ⟨rfl, hle, hend⟩ := hl
      obtain ⟨hover, hrest⟩ := List.pairwise_cons.mp hbelow
      have hhead : l ∈ l :: rest := List.mem_cons_self ..
      refine ih (fun m hm => hgrowing m (List.mem_cons_of_mem _ hm)) hrest
        (hcd.apply (hgrowing l hhead) (hc l hhead) hle hend) (fun m hm => ?_)
      exact (hc m (List.mem_cons_of_mem _ hm)).apply (hover m hm)

theorem resolve_within {layers layers' : List Layer}
    (hlater : List.Forall₂ Layer.Later layers layers')
    (hgrowing : ∀ l ∈ layers, l.tables.Growing)
    (hbelow : layers.Pairwise fun l m => l.tables.LimitsBelow m.tables) :
    (resolve layers).Within (resolve layers') := by
  obtain ⟨htypes, hoperators, hlimits⟩ := within_nothing.foldl hlater hgrowing hbelow
    (fun l _ => limitsBelow_nothing l.tables)
  exact ⟨htypes, hoperators, hlimits⟩

end Capabilities

/-! ## The versions of the library -/

namespace Family

theorem id_le_greatest {f : Family} (hf : f.isLineage = true) {v : Version}
    (h : f.supports v.series = true)
    (hpatch : v.patch.getD Version.lastComponent ≤ Version.lastComponent) :
    v.id ≤ VersionId.greatest := by
  have hreleases : (f.releases.all fun w => decide (w.id ≤ VersionId.greatest)) = true := by
    cases f <;> decide +kernel
  obtain ⟨w, hw, hle, -⟩ := Version.exists_release hf h hpatch
  exact Nat.le_trans hle (of_decide_eq_true (List.all_eq_true.mp hreleases w hw))

/-- No supported version of MariaDB lies between the last series that shares the
ids of MySQL and 10.0. -/
theorem id_mariaDb {v : Version} (h : Family.mariaDb.supports v.series = true)
    (hpatch : v.patch.getD Version.lastComponent ≤ Version.lastComponent) :
    v.id ≤ 50699 ∨ 100000 ≤ v.id := by
  have hreleases : (Family.mariaDb.releases.all fun w =>
      decide (w.id ≤ 50699) || decide (100099 ≤ w.id)) = true := by decide +kernel
  obtain ⟨w, hw, hle, hge⟩ := Version.exists_release rfl h hpatch
  have hrange := List.all_eq_true.mp hreleases w hw
  rw [Bool.or_eq_true, decide_eq_true_eq, decide_eq_true_eq] at hrange
  rcases hrange with hold | hnew
  · exact Or.inl (Nat.le_trans hle hold)
  · exact Or.inr (Nat.le_of_add_le_add_right (Nat.le_trans hnew hge))

/-- Outside that gap the MySQL that MariaDB stands on rises with its own id. -/
theorem baseline_mariaDb_mono {a b : VersionId} (ha : a ≤ 50699 ∨ 100000 ≤ a) (hle : a ≤ b) :
    (Family.mariaDb.baseline? a).getD a ≤ (Family.mariaDb.baseline? b).getD b := by
  simp only [baseline?]
  -- ids as plain numbers, which is how `omega` reads them
  unfold VersionId at *
  split_ifs <;> simp only [Option.getD_some] <;> omega

theorem baseline_mariaDb_le {a : VersionId} (ha : a ≤ VersionId.greatest) :
    (Family.mariaDb.baseline? a).getD a ≤ VersionId.greatest := by
  have hgreatest : VersionId.greatest = 999999 := rfl
  simp only [baseline?]
  unfold VersionId at *
  split_ifs <;> simp only [Option.getD_some] <;> omega

end Family

/-- Of two supported versions of the lineage the later one is resolved from the
same tables, none of them read earlier. -/
theorem Capabilities.resolve_layers_within {f : Family} (hf : f.isLineage = true) {v w : Version}
    (hv : f.supports v.series = true) (hw : f.supports w.series = true)
    (hpv : v.patch.getD Version.lastComponent ≤ Version.lastComponent)
    (hpw : w.patch.getD Version.lastComponent ≤ Version.lastComponent) (hle : v.id ≤ w.id)
    {layers layers' : List Layer} (hlayers : Catalog.shipped.layers f v.id = .ok layers)
    (hlayers' : Catalog.shipped.layers f w.id = .ok layers') :
    (resolve layers).Within (resolve layers') := by
  have hend := Family.id_le_greatest hf hw hpw
  cases f with
  | mysql =>
      cases hlayers
      cases hlayers'
      refine resolve_within (.cons ⟨rfl, hle, hend⟩ .nil) ?_ (List.pairwise_singleton _ _)
      intro l hl
      obtain rfl := List.mem_singleton.mp hl
      exact Tables.growing_mysql
  | mariaDb =>
      cases hlayers
      cases hlayers'
      have hbase := Family.baseline_mariaDb_mono (Family.id_mariaDb hv hpv) hle
      have hbaseEnd := Family.baseline_mariaDb_le hend
      refine resolve_within (.cons ⟨rfl, hbase, hbaseEnd⟩ (.cons ⟨rfl, hle, hend⟩ .nil)) ?_ ?_
      · intro l hl
        rcases List.mem_cons.mp hl with rfl | hl
        · exact Tables.growing_mysql
        · obtain rfl := List.mem_singleton.mp hl
          exact Tables.growing_mariaDb
      · refine List.pairwise_pair.mpr ?_
        exact Tables.limitsBelow_mysql_mariaDb
  | standard => cases hf

namespace Pool

/-- After any history, what a granted platform can do is resolved from the layers
of the version that was asked for. -/
theorem requestFamily_capabilities (steps : List Step) {f : Family} {r : VersionRequest}
    {v : Version} (hf : f.isLineage = true) (hr : r.resolve f = .ok v) :
    ∃ a layers, ((run Catalog.shipped empty steps).requestFamily Catalog.shipped f r).2 = .ok a
      ∧ a.platform.id = v.id ∧ Catalog.shipped.layers f v.id = .ok layers
      ∧ a.platform.capabilities = Capabilities.resolve layers := by
  obtain ⟨q, hbuild⟩ := Platform.build_shipped hf v
  obtain ⟨layers, hlayers, hcapabilities⟩ := Platform.build_capabilities hbuild
  obtain ⟨a, c, ha, hplatform⟩ := (traced_run Catalog.shipped steps).fetch hbuild
  refine ⟨a, layers, ?_, ?_, hlayers, ?_⟩
  · rw [requestFamily_of_resolve hr]
    exact ha
  · rw [hplatform]
    exact firstVersion?_getD_id steps f v
  · rw [hplatform]
    exact hcapabilities

/-! ## The headline theorem -/

/-- **Upgrades take nothing away.** Two requests for versions of one family of the
lineage, by default, by text, by number, or as versions whose patch has at most
two digits, are granted after any history. If the id of the second is not below
that of the first, its platform has every type and every operator of the first,
and every kind of name that is limited there is limited here, to no smaller
length. -/
theorem upgrade_keeps (steps steps' : List Step) (f : Family) (r s : VersionRequest)
    (v w : Version) (hf : f.isLineage = true) (hr : r.InRange) (hs : s.InRange)
    (hv : r.resolve f = .ok v) (hw : s.resolve f = .ok w) (hle : v.id ≤ w.id) :
    ∃ a b, ((run Catalog.shipped empty steps).requestFamily Catalog.shipped f r).2 = .ok a
      ∧ ((run Catalog.shipped empty steps').requestFamily Catalog.shipped f s).2 = .ok b
      ∧ a.platform.id = v.id ∧ b.platform.id = w.id
      ∧ (∀ t, a.platform.hasType t = true → b.platform.hasType t = true)
      ∧ (∀ o, a.platform.hasOperator o = true → b.platform.hasOperator o = true)
      ∧ ∀ kind n, a.platform.maxLength? kind = some n →
        ∃ m, b.platform.maxLength? kind = some m ∧ n ≤ m := by
  obtain ⟨a, layers, ha, haid, hlayers, hacapabilities⟩ := requestFamily_capabilities steps hf hv
  obtain ⟨b, layers', hb, hbid, hlayers', hbcapabilities⟩ :=
    requestFamily_capabilities steps' hf hw
  have hwithin := Capabilities.resolve_layers_within hf (VersionRequest.resolve_eq_ok hv).2
    (VersionRequest.resolve_eq_ok hw).2 (hr.patch_le hf hv) (hs.patch_le hf hw) hle hlayers hlayers'
  rw [← hacapabilities, ← hbcapabilities] at hwithin
  refine ⟨a, b, ha, hb, haid, hbid, fun t ht => ?_, fun o ho => ?_, hwithin.limits⟩
  · rw [Platform.hasType, List.contains_iff_mem] at ht ⊢
    exact hwithin.types t ht
  · rw [Platform.hasOperator, List.contains_iff_mem] at ho ⊢
    exact hwithin.operators _ ho

/-- From the last patch of MariaDB 5.5, which has the ids of MySQL, to the first
of 10.0, which stands on MySQL 5.6. -/
theorem upgrade_keeps_to_ten :
    VersionRequest.resolve (.text "5.5") .mariaDb = .ok ⟨5, some 5, none⟩
      ∧ VersionRequest.resolve (.number 100000) .mariaDb = .ok ⟨10, some 0, some 0⟩
      ∧ ∃ a b, (empty.requestFamily Catalog.shipped .mariaDb (.text "5.5")).2 = .ok a
        ∧ (empty.requestFamily Catalog.shipped .mariaDb (.number 100000)).2 = .ok b
        ∧ a.platform.id = 50599 ∧ b.platform.id = 100000
        ∧ (∀ t, a.platform.hasType t = true → b.platform.hasType t = true)
        ∧ (∀ o, a.platform.hasOperator o = true → b.platform.hasOperator o = true)
        ∧ ∀ kind n, a.platform.maxLength? kind = some n →
          ∃ m, b.platform.maxLength? kind = some m ∧ n ≤ m := by
  have hv : VersionRequest.resolve (.text "5.5") .mariaDb = .ok ⟨5, some 5, none⟩ := rfl
  have hw : VersionRequest.resolve (.number 100000) .mariaDb = .ok ⟨10, some 0, some 0⟩ := rfl
  exact ⟨hv, hw, upgrade_keeps [] [] .mariaDb (.text "5.5") (.number 100000) _ _ rfl trivial trivial
    hv hw (by decide)⟩

end Pool

end SqlDialect
