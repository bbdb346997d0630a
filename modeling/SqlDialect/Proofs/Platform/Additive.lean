import SqlDialect.Proofs.Builtin.Lookup
import SqlDialect.Proofs.Platform.Spelling

/-!
# MariaDB from 10.2 on

From 10.2 on MariaDB stands on one version of MySQL (`Family.baseline_settled`), so
two of its versions differ only in the id at which its own tables are read, and
these tables only add.

- Every kind of names lasts in them (`Tables.lasting_mariaDb`): nothing breaks off,
  and a name that is withdrawn was withdrawn from the start. Two variables are
  withdrawn up to 11.0 and come back after it.
- A word that becomes reserved is still a keyword, because the keywords lose only
  words that are reserved.
- A variable may be given anew, but never with more than another default
  (`Variable.eq_but_default`).
- No function of its own has the name of one that it inherits
  (`Builtin.own_name_ne_inherited`), so none is ever overridden.
-/

namespace SqlDialect

/-- From 10.2 on MariaDB stands on the last version of MySQL 5.7. -/
theorem Family.baseline_settled {a : VersionId} (h : 100200 ≤ a) :
    Family.mariaDb.baseline? a = some 50799 := by
  have hlate : ¬a ≤ 99999 := Nat.not_le_of_lt (Nat.lt_of_lt_of_le (by decide) h)
  have hlater : ¬a ≤ 100199 := Nat.not_le_of_lt (Nat.lt_of_lt_of_le (by decide) h)
  rw [baseline?, if_neg hlate, if_neg hlater]

/-! ## The tables -/

theorem Tables.lasting_mariaDb (kind : NameKind) : Catalog.shipped.mariaDb.Lasting kind := by
  have hwithdrawn : ∀ e ∈ Catalog.shipped.mariaDb.withdrawn, e.introduced = VersionId.least := by
    decide +kernel
  refine ⟨?_, fun e he _ => hwithdrawn e he⟩
  cases kind with
  | keyword => exact show Catalog.shipped.mariaDb.keywords.Unbroken id by decide +kernel
  | reserved => exact show Catalog.shipped.mariaDb.reserved.Unbroken id by decide +kernel
  | operator => exact show Catalog.shipped.mariaDb.operators.Unbroken id by decide +kernel
  | systemVariable =>
      exact show Catalog.shipped.mariaDb.systemVariables.Unbroken Variable.name by decide +kernel
  | preparable => exact show Catalog.shipped.mariaDb.preparable.Unbroken id by decide +kernel

/-- Where MariaDB lists a variable that is listed elsewhere too, nothing but the
default is another. -/
theorem Variable.eq_but_default {e e' : Dated Variable}
    (he : e ∈ Catalog.shipped.mysql.systemVariables ++ Catalog.shipped.mariaDb.systemVariables)
    (he' : e' ∈ Catalog.shipped.mariaDb.systemVariables) (hname : e.value.name = e'.value.name) :
    e'.value = { e.value with default := e'.value.default } := by
  have hall : ∀ e ∈ Catalog.shipped.mysql.systemVariables ++ Catalog.shipped.mariaDb.systemVariables,
      ∀ e' ∈ Catalog.shipped.mariaDb.systemVariables, e.value.name = e'.value.name →
        e'.value = { e.value with default := e'.value.default } := by decide +kernel
  exact hall e he e' he' hname

namespace Builtin

theorem own_name_ne_inherited {f g : Builtin} {a : VersionId}
    (hf : Catalog.shipped.mysqlBuiltins.Has 50799 f)
    (hg : Catalog.shipped.mariaDbBuiltins.Has a g) : g.name ≠ f.name := by
  have hcodes : ((Catalog.shipped.mariaDbBuiltins.map (nameCode ·.value.name)).all fun n =>
      !((Catalog.shipped.mysqlBuiltins.activeAt 50799).map (nameCode ·.name)).contains n) = true := by
    decide +kernel
  intro hname
  obtain ⟨e, he, -, rfl⟩ := hg
  have hfree := List.all_eq_true.mp hcodes _ (List.mem_map_of_mem he)
  rw [hname, Bool.not_eq_true', Bool.eq_false_iff, ne_eq, List.contains_iff_mem] at hfree
  exact hfree (List.mem_map_of_mem (Timeline.mem_activeAt.mpr hf))

end Builtin

/-! ## Two ids -/

section

variable {a b : VersionId}

namespace Capabilities

/-- What MariaDB can do at an id from 10.2 on, before the keywords lose the reserved
words. -/
def settled (a : VersionId) : Capabilities :=
  stack [⟨Catalog.shipped.mysql, 50799⟩, ⟨Catalog.shipped.mariaDb, a⟩]

theorem names_settled (hle : a ≤ b) (hend : b ≤ VersionId.greatest) {kind : NameKind}
    {name : String} (h : name ∈ (settled a).names kind) : name ∈ (settled b).names kind :=
  (Tables.lasting_mariaDb kind).mem_names_apply hle hend (fun hname => hname) h

theorem listed_of_variableNamed?_settled {name : String} {v : Variable}
    (h : (settled a).variableNamed? name = some v) :
    v.name = name ∧ ∃ e ∈ Catalog.shipped.mysql.systemVariables
      ++ Catalog.shipped.mariaDb.systemVariables, e.value = v := by
  obtain ⟨before, l, after, hlayers, ⟨front, e, back, htable, -, rfl, hname, -⟩, -⟩ :=
    variableNamed?_stack.mp h
  refine ⟨hname, e, ?_, rfl⟩
  have hl : l ∈ before ++ l :: after := by simp
  have he : e ∈ l.tables.systemVariables := htable ▸ by simp
  rw [← hlayers] at hl
  rcases List.mem_cons.mp hl with rfl | hl
  · exact List.mem_append_left _ he
  · obtain rfl := List.mem_singleton.mp hl
    exact List.mem_append_right _ he

theorem variableNamed?_settled (hle : a ≤ b) (hend : b ≤ VersionId.greatest) {name : String}
    {v : Variable} (h : (settled a).variableNamed? name = some v) :
    ∃ d, (settled b).variableNamed? name = some { v with default := d } := by
  have hlasting := Tables.lasting_mariaDb .systemVariable
  by_cases hgives : Layer.Gives ⟨Catalog.shipped.mariaDb, b⟩ .systemVariable name
  · obtain ⟨hname, e, he, rfl⟩ := listed_of_variableNamed?_settled h
    obtain ⟨w, ⟨e', he', -, rfl⟩, hname', hfind⟩ :=
      variableNamed?_apply_of_gives (stack [⟨Catalog.shipped.mysql, 50799⟩]) hgives
    rw [Variable.eq_but_default he he' (hname.trans hname'.symm)] at hfind
    exact ⟨_, hfind⟩
  · -- MariaDB has no such variable at `b`, so it had none at `a`: it was inherited and still is
    have hbefore : ¬Layer.Gives ⟨Catalog.shipped.mariaDb, a⟩ .systemVariable name :=
      fun hearlier => hgives (hlasting.gives hle hend hearlier)
    obtain ⟨hkept, hstays⟩ := (variableNamed?_apply_of_not_gives hbefore).mp h
    exact ⟨v.default, (variableNamed?_apply_of_not_gives hgives).mpr
      ⟨hkept, fun hdrops => hstays (hlasting.withdraws hle hdrops)⟩⟩

end Capabilities

theorem Builtin.mem_builtins_settled (hstart : 100200 ≤ a) (hle : a ≤ b)
    (hend : b ≤ VersionId.greatest) {f : Builtin} (h : f ∈ Catalog.shipped.builtins .mariaDb a) :
    f ∈ Catalog.shipped.builtins .mariaDb b := by
  have hunbroken : Catalog.shipped.mariaDbBuiltins.Unbroken id := by decide +kernel
  rw [mem_builtins_mariaDb (Family.baseline_settled (Nat.le_trans hstart hle))]
  rcases (mem_builtins_mariaDb (Family.baseline_settled hstart)).mp h with hown | ⟨hinherited, -⟩
  · obtain ⟨g, hg, rfl⟩ := hunbroken.has hle hend hown
    exact Or.inl hg
  · exact Or.inr ⟨hinherited, fun g hg => own_name_ne_inherited hinherited hg⟩

end

/-! ## Platforms -/

namespace Platform

theorem Shipped.builtins_eq {p : Platform} (hp : p.Shipped) :
    p.builtins = Catalog.shipped.builtins p.family p.id := by
  obtain ⟨f, v, q, c, hbuild, rfl⟩ := hp
  have hbuiltins := build_builtins hbuild
  exact hbuiltins

theorem Shipped.capabilities_settled {p : Platform} (hp : p.Shipped) (hf : p.family = .mariaDb)
    (hstart : 100200 ≤ p.id) : p.capabilities = (Capabilities.settled p.id).separate := by
  obtain ⟨layers, hlayers, hcapabilities⟩ := hp.exists_layers
  rw [hf, Catalog.layers, Family.baseline_settled hstart] at hlayers
  cases hlayers
  exact hcapabilities

theorem isKeyword_separate {c : Capabilities} {p : Platform} (h : p.capabilities = c.separate)
    {word : String} :
    p.isKeyword word = true ↔
      wordKey word ∈ c.names .reserved ∨ wordKey word ∈ c.names .keyword := by
  rw [isKeyword, Bool.or_eq_true, List.contains_iff_mem, List.contains_iff_mem, h]
  constructor
  · rintro (hreserved | hkeyword)
    · exact Or.inl hreserved
    · exact Or.inr (List.mem_filter.mp hkeyword).1
  · rintro (hreserved | hkeyword)
    · exact Or.inl hreserved
    · by_cases hreserved : wordKey word ∈ c.reserved
      · exact Or.inl hreserved
      · exact Or.inr (List.mem_filter.mpr ⟨hkeyword, by simpa using hreserved⟩)

/-! ## The headline theorem -/

/-- **MariaDB only adds.** Of two versions of MariaDB from 10.2 on, up to the last id of
the tables, the later one has all that the earlier one has, whatever name is looked
up in whatever spelling: reserved words, keywords and preparable statements stay;
functions stay as they are; and variables stay, with nothing changed but perhaps
their default. -/
theorem mariaDb_only_adds {p q : Platform} (hp : p.Shipped) (hq : q.Shipped)
    (hpf : p.family = .mariaDb) (hqf : q.family = .mariaDb) (hstart : 100200 ≤ p.id)
    (hle : p.id ≤ q.id) (hend : q.id ≤ 999999) (name : String) :
    (p.isReserved name = true → q.isReserved name = true)
    ∧ (p.isKeyword name = true → q.isKeyword name = true)
    ∧ (p.isPreparable name = true → q.isPreparable name = true)
    ∧ (p.hasBuiltin name = true → q.hasBuiltin name = true)
    ∧ (∀ f, p.builtin? name = some f → q.builtin? name = some f)
    ∧ ∀ v, p.variableNamed? name = some v →
      ∃ d, q.variableNamed? name = some { v with default := d } := by
  have hpc := hp.capabilities_settled hpf hstart
  have hqc := hq.capabilities_settled hqf (Nat.le_trans hstart hle)
  have hnames : ∀ (kind : NameKind) {n : String}, n ∈ (Capabilities.settled p.id).names kind →
      n ∈ (Capabilities.settled q.id).names kind := fun _ _ => Capabilities.names_settled hle hend
  have hfunction : ∀ f, p.builtin? name = some f → q.builtin? name = some f := by
    intro f hfound
    have hpb := hp.builtins_eq
    have hqb := hq.builtins_eq
    rw [hpf] at hpb
    rw [hqf] at hqb
    rw [builtin?_eq_some_iff (hpb ▸ Builtin.distinct_builtins .mariaDb p.id), hpb] at hfound
    rw [builtin?_eq_some_iff (hqb ▸ Builtin.distinct_builtins .mariaDb q.id), hqb]
    exact ⟨Builtin.mem_builtins_settled hstart hle hend hfound.1, hfound.2⟩
  refine ⟨?_, ?_, ?_, ?_, hfunction, ?_⟩
  · rw [isReserved, isReserved, List.contains_iff_mem, List.contains_iff_mem, hpc, hqc]
    exact hnames .reserved
  · rw [isKeyword_separate hpc, isKeyword_separate hqc]
    rintro (hreserved | hkeyword)
    · exact Or.inl (hnames .reserved hreserved)
    · exact Or.inr (hnames .keyword hkeyword)
  · rw [isPreparable, isPreparable, List.contains_iff_mem, List.contains_iff_mem, hpc, hqc]
    exact hnames .preparable
  · rw [hasBuiltin, hasBuiltin, Option.isSome_iff_exists, Option.isSome_iff_exists]
    rintro ⟨f, hf⟩
    exact ⟨f, hfunction f hf⟩
  · intro v hv
    rw [variableNamed?, hpc] at hv
    rw [variableNamed?, hqc]
    exact Capabilities.variableNamed?_settled hle hend hv

/-- From the first patch of 10.2 to 11.4: `OFFSET` stays a keyword though it becomes
reserved on the way, and `sql_mode` stays a variable with another default. -/
theorem mariaDb_only_adds_offset :
    ∃ p q, build Catalog.shipped .mariaDb ⟨10, some 2, some 0⟩ = .ok p
      ∧ build Catalog.shipped .mariaDb ⟨11, some 4, none⟩ = .ok q
      ∧ p.id = 100200 ∧ p.id ≤ q.id ∧ q.id ≤ 999999
      ∧ p.isKeyword " offset" = true ∧ p.isReserved "offset" = false ∧ q.isKeyword " offset" = true
      ∧ p.variableNamed? "@@SQL_MODE"
        = some (.settable "sql_mode" .set .both Catalog.MariaDb.modes101)
      ∧ ∃ d, q.variableNamed? "@@SQL_MODE" = some (.settable "sql_mode" .set .both d) := by
  obtain ⟨p, hpbuild⟩ := build_shipped (f := .mariaDb) rfl ⟨10, some 2, some 0⟩
  obtain ⟨q, hqbuild⟩ := build_shipped (f := .mariaDb) rfl ⟨11, some 4, none⟩
  have hp : p.Shipped := ⟨_, _, p, p.current, hpbuild, rfl⟩
  have hq : q.Shipped := ⟨_, _, q, q.current, hqbuild, rfl⟩
  obtain ⟨hpf, hpv, -, -⟩ := build_ok hpbuild
  obtain ⟨hqf, hqv, -, -⟩ := build_ok hqbuild
  have hpid : p.id = 100200 := by rw [id, hpv]; decide
  have hqid : q.id = 110499 := by rw [id, hqv]; decide
  have hle : p.id ≤ q.id := by rw [hpid, hqid]; decide
  have hend : q.id ≤ 999999 := by rw [hqid]; decide
  have hstart : 100200 ≤ p.id := by rw [hpid]
  have hadds := mariaDb_only_adds hp hq hpf hqf hstart hle hend
  have hcapabilities := hp.capabilities_settled hpf hstart
  rw [hpid] at hcapabilities
  have hkeyword : p.isKeyword " offset" = true := by
    rw [isKeyword_separate hcapabilities]
    exact Or.inr (show "OFFSET" ∈ (Capabilities.settled 100200).keywords by decide +kernel)
  have hreserved : p.isReserved "offset" = false := by
    rw [isReserved, hcapabilities]
    decide +kernel
  have hvariable : p.variableNamed? "@@SQL_MODE"
      = some (.settable "sql_mode" .set .both Catalog.MariaDb.modes101) := by
    rw [variableNamed?, hcapabilities]
    decide +kernel
  obtain ⟨-, hoffset, -⟩ := hadds " offset"
  obtain ⟨-, -, -, -, -, hmode⟩ := hadds "@@SQL_MODE"
  exact ⟨p, q, hpbuild, hqbuild, hpid, hle, hend, hkeyword, hreserved, hoffset hkeyword, hvariable,
    hmode _ hvariable⟩

end Platform

end SqlDialect
