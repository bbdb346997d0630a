import Mathlib.Algebra.Group.Nat.Defs
import SqlDialect.Platform.Comment
import SqlDialect.Proofs.Platform.Build
import SqlDialect.Proofs.Text.Number

/-!
# Which comments are run

The tag of an executable comment is a text, and what the text is as a tag is said
here by its characters alone (`CommentTag.Writes`): digits, possibly after an `M`.
`CommentTag.parse?` reads these texts and no others (`parse?_eq_some_iff`), so the
spelling is settled before any version is looked at.

What is run is then a matter of the tag, the family and the id, with one lemma for
each family (`runsOn_mysql`, `runsOn_mariaDb`). A later version runs what an earlier
one runs, except where MariaDB begins to pass over tags of MySQL
(`runsOn_switched_off_iff`).

A tag with the number of a version is run *after* that version and not on it
(`runsComment_versionTag`), while a condition with that version as its least one holds
on it (`satisfies_least`).
-/

namespace SqlDialect

namespace CommentTag

/-! ## The text of a tag -/

/-- The characters are digits that write `n`. No digits write `0`. -/
def WritesNumber (cs : List Char) (n : Nat) : Prop := cs = [] ∧ n = 0 ∨ Text.IsNumber cs n

/-- The text without the blanks around it is the tag: the digits of its number, with
one `M` or `m` in front exactly if the tag is for MariaDB only. -/
inductive Writes (s : String) : CommentTag → Prop
  | plain {cs : List Char} {n : Nat} :
      Text.Trims s.toList cs → WritesNumber cs n → Writes s ⟨false, n⟩
  | marked {m : Char} {cs : List Char} {n : Nat} :
      m = 'M' ∨ m = 'm' → Text.Trims s.toList (m :: cs) → WritesNumber cs n → Writes s ⟨true, n⟩

theorem number?_eq_some_iff {cs : List Char} {n : Nat} :
    number? cs = some n ↔ WritesNumber cs n := by
  cases cs with
  | nil =>
      constructor
      · intro h
        exact Or.inl ⟨rfl, (Option.some.inj h).symm⟩
      · intro h
        rcases h with ⟨-, rfl⟩ | hnumber
        · rfl
        · exact absurd rfl hnumber.ne_nil
  | cons c cs =>
      rw [number?, if_neg (by simp), Text.number?_eq_some_iff]
      constructor
      · intro h
        exact Or.inr h
      · intro h
        rcases h with ⟨hnil, -⟩ | hnumber
        · cases hnil
        · exact hnumber

theorem parse?_marked {s : String} {m : Char} {cs : List Char} (hm : m = 'M' ∨ m = 'm')
    (hs : Text.trim s.toList = m :: cs) : parse? s = (number? cs).map (⟨true, ·⟩) := by
  rcases hm with rfl | rfl
  · rw [parse?, hs]
    rfl
  · rw [parse?, hs]
    rfl

theorem parse?_plain {s : String} {cs : List Char} (hs : Text.trim s.toList = cs)
    (hmark : ∀ m ∈ cs.head?, m ≠ 'M' ∧ m ≠ 'm') : parse? s = (number? cs).map (⟨false, ·⟩) := by
  unfold parse?
  rw [hs]
  split
  · exact absurd rfl (hmark _ rfl).1
  · exact absurd rfl (hmark _ rfl).2
  · rfl

/-- A tag is read from the texts that write it, and from no others. -/
theorem parse?_eq_some_iff {s : String} {t : CommentTag} : parse? s = some t ↔ Writes s t := by
  constructor
  · intro h
    by_cases hmark : ∀ m ∈ (Text.trim s.toList).head?, m ≠ 'M' ∧ m ≠ 'm'
    · rw [parse?_plain rfl hmark] at h
      obtain ⟨n, hn, rfl⟩ := Option.map_eq_some_iff.mp h
      exact .plain (Text.trims_iff.mpr rfl) (number?_eq_some_iff.mp hn)
    · simp only [not_forall, not_and_or, not_not] at hmark
      obtain ⟨m, hhead, hm⟩ := hmark
      obtain ⟨cs, hcs⟩ := List.head?_eq_some_iff.mp hhead
      rw [parse?_marked hm hcs] at h
      obtain ⟨n, hn, rfl⟩ := Option.map_eq_some_iff.mp h
      exact .marked hm (Text.trims_iff.mpr hcs) (number?_eq_some_iff.mp hn)
  · intro h
    cases h with
    | @plain cs n htrims hn =>
        -- the digits do not begin with an `M`
        have hmark : ∀ m ∈ cs.head?, m ≠ 'M' ∧ m ≠ 'm' := by
          intro m hhead
          rcases hn with ⟨rfl, -⟩ | hnumber
          · cases hhead
          · have hdigit := hnumber.digits m (List.mem_of_head? hhead)
            constructor
            · rintro rfl
              exact absurd hdigit (by decide)
            · rintro rfl
              exact absurd hdigit (by decide)
        rw [parse?_plain (Text.trims_iff.mp htrims) hmark, number?_eq_some_iff.mpr hn]
        rfl
    | marked hm htrims hn =>
        rw [parse?_marked hm (Text.trims_iff.mp htrims), number?_eq_some_iff.mpr hn]
        rfl

theorem Writes.unique {s : String} {t u : CommentTag} (ht : Writes s t) (hu : Writes s u) :
    t = u := by
  rw [← parse?_eq_some_iff] at ht hu
  exact Option.some.inj (ht.symm.trans hu)

theorem writes_toString {n : Nat} (h : n < 2 ^ 32) : Writes (toString n) ⟨false, n⟩ :=
  .plain (Text.trims_iff.mpr (Text.trim_eq_self (Text.isBlank_toString n)))
    (Or.inr (Text.isNumber_toString h))

theorem writes_mark_toString {mark : String} (hmark : mark = "M" ∨ mark = "m") {n : Nat}
    (h : n < 2 ^ 32) : Writes (mark ++ toString n) ⟨true, n⟩ := by
  obtain ⟨m, hm, hchars⟩ : ∃ m : Char, (m = 'M' ∨ m = 'm')
      ∧ (mark ++ toString n).toList = m :: (toString n).toList := by
    rcases hmark with rfl | rfl
    · exact ⟨'M', Or.inl rfl, String.toList_append⟩
    · exact ⟨'m', Or.inr rfl, String.toList_append⟩
  have hblank : ∀ c ∈ m :: (toString n).toList, Text.isBlank c = false := by
    intro c hc
    rcases List.mem_cons.mp hc with rfl | hdigit
    · rcases hm with rfl | rfl
      · decide
      · decide
    · exact Text.isBlank_toString n c hdigit
  refine .marked hm ?_ (Or.inr (Text.isNumber_toString h))
  rw [hchars, Text.trims_iff]
  exact Text.trim_eq_self hblank

/-! ## What is run -/

theorem runsOn_mysql {t : CommentTag} {id : Nat} :
    t.runsOn .mysql id = true ↔ t.number = 0 ∨ t.mariaDbOnly = false ∧ t.number < id := by
  by_cases hzero : t.number = 0
  · simp [runsOn, Family.isLineage, hzero]
  · cases hmark : t.mariaDbOnly <;> simp [runsOn, Family.isLineage, hzero, hmark]

/-- MariaDB also runs what is meant for MySQL, until it passes over the tags of MySQL
from 5.7 on. -/
theorem runsOn_mariaDb {t : CommentTag} {id : Nat} :
    t.runsOn .mariaDb id = true ↔ t.number = 0 ∨ t.number < id
      ∧ ¬(t.mariaDbOnly = false ∧ 50700 ≤ t.number ∧ t.number ≤ 99999 ∧ 100007 ≤ id) := by
  have hband : (!t.mariaDbOnly && Family.mariaDb == .mariaDb && decide (firstIgnored ≤ t.number)
        && decide (t.number ≤ lastIgnored) && decide (ignoringSince ≤ id)) = true ↔
      t.mariaDbOnly = false ∧ 50700 ≤ t.number ∧ t.number ≤ 99999 ∧ 100007 ≤ id := by
    simp only [Bool.and_eq_true, Bool.not_eq_true', beq_self_eq_true, and_true, decide_eq_true_eq,
      and_assoc]
    rfl
  rw [runsOn, if_neg (by decide)]
  by_cases hzero : t.number = 0
  · simp [hzero]
  · rw [if_neg (by simpa using hzero), if_neg (by simp)]
    split
    · rename_i hpassed
      simp [hzero, hband.mp hpassed]
    · rename_i hpassed
      simp only [hzero, mt hband.mpr hpassed, false_or, not_false_eq_true, and_true,
        decide_eq_true_eq]

/-- On MariaDB a tag without an `M` is run with the one that has it, unless it is passed
over. -/
theorem runsOn_unmarked_iff {n id : Nat} :
    runsOn ⟨false, n⟩ .mariaDb id = true ↔
      runsOn ⟨true, n⟩ .mariaDb id = true ∧ ¬(50700 ≤ n ∧ n ≤ 99999 ∧ 100007 ≤ id) := by
  simp only [runsOn_mariaDb, true_and, Bool.true_eq_false, false_and, not_false_eq_true, and_true]
  constructor
  · intro h
    rcases h with hzero | ⟨hlt, hkept⟩
    · exact ⟨Or.inl hzero, by omega⟩
    · exact ⟨Or.inr hlt, hkept⟩
  · intro h
    rcases h with ⟨hzero | hlt, hkept⟩
    · exact Or.inl hzero
    · exact Or.inr ⟨hlt, hkept⟩

/-- Among the tags that address the family, a smaller number is run wherever a greater
one is, and by every later version too. -/
theorem runsOn_of_le {f : Family} {b : Bool}
    (hb : f = .mysql ∧ b = false ∨ f = .mariaDb ∧ b = true) {m n id id' : Nat} (hnumber : m ≤ n)
    (hid : id ≤ id') (h : runsOn ⟨b, n⟩ f id = true) : runsOn ⟨b, m⟩ f id' = true := by
  rcases hb with ⟨rfl, rfl⟩ | ⟨rfl, rfl⟩
  · rw [runsOn_mysql] at h ⊢
    rcases h with hzero | ⟨-, hlt⟩
    · exact Or.inl (Nat.le_zero.mp (hzero ▸ hnumber))
    · exact Or.inr ⟨rfl, Nat.lt_of_le_of_lt hnumber (Nat.lt_of_lt_of_le hlt hid)⟩
  · rw [runsOn_mariaDb] at h ⊢
    rcases h with hzero | ⟨hlt, -⟩
    · exact Or.inl (Nat.le_zero.mp (hzero ▸ hnumber))
    · refine Or.inr ⟨Nat.lt_of_le_of_lt hnumber (Nat.lt_of_lt_of_le hlt hid), ?_⟩
      intro hpassed
      cases hpassed.1

/-- A comment that is run by a version and not by a later one is passed over by
MariaDB, and the step from the one to the other is that to 10.0.7. -/
theorem runsOn_switched_off_iff {t : CommentTag} {f : Family} (hf : f = .mysql ∨ f = .mariaDb)
    {id id' : Nat} (hid : id ≤ id') :
    t.runsOn f id = true ∧ t.runsOn f id' = false ↔
      f = .mariaDb ∧ t.mariaDbOnly = false ∧ 50700 ≤ t.number ∧ t.number ≤ 99999
        ∧ t.number < id ∧ id < 100007 ∧ 100007 ≤ id' := by
  rw [← Bool.not_eq_true]
  rcases hf with rfl | rfl
  · simp only [runsOn_mysql]
    constructor
    · intro h
      rcases h with ⟨hrun | ⟨hmark, hlt⟩, hstop⟩
      · exact absurd (Or.inl hrun) hstop
      · exact absurd (Or.inr ⟨hmark, Nat.lt_of_lt_of_le hlt hid⟩) hstop
    · intro h
      cases h.1
  · simp only [runsOn_mariaDb, true_and]
    constructor
    · intro h
      rcases h with ⟨hrun | ⟨hlt, hkept⟩, hstop⟩
      · exact absurd (Or.inl hrun) hstop
      · rw [not_or, not_and, not_not] at hstop
        obtain ⟨hmark, hlow, hhigh, hsince⟩ := hstop.2 (Nat.lt_of_lt_of_le hlt hid)
        have hbefore : id < 100007 :=
          Nat.lt_of_not_le fun hle => hkept ⟨hmark, hlow, hhigh, hle⟩
        exact ⟨hmark, hlow, hhigh, hlt, hbefore, hsince⟩
    · intro h
      obtain ⟨hmark, hlow, hhigh, hlt, hbefore, hsince⟩ := h
      refine ⟨Or.inr ⟨hlt, fun hpassed => Nat.not_le_of_lt hbefore hpassed.2.2.2⟩, ?_⟩
      intro hrun
      rcases hrun with hzero | ⟨-, hkept⟩
      · omega
      · exact hkept ⟨hmark, hlow, hhigh, hsince⟩

end CommentTag

namespace Platform

/-! ## Comments on a platform -/

theorem runsComment_of_writes {s : String} {t : CommentTag} (h : CommentTag.Writes s t)
    (p : Platform) : p.runsComment s = t.runsOn p.family p.id := by
  rw [runsComment, CommentTag.parse?_eq_some_iff.mpr h]

theorem exists_writes_of_runsComment {p : Platform} {s : String} (h : p.runsComment s = true) :
    ∃ t, CommentTag.Writes s t := by
  unfold runsComment at h
  split at h
  · rename_i t ht
    exact ⟨t, CommentTag.parse?_eq_some_iff.mp ht⟩
  · cases h

theorem exists_shipped {f : Family} (hf : f.isLineage = true) (v : Version) :
    ∃ p, build Catalog.shipped f v = .ok p ∧ p.family = f ∧ p.id = v.id := by
  obtain ⟨p, hp⟩ := build_shipped hf v
  obtain ⟨hfamily, hversion, -⟩ := build_ok hp
  exact ⟨p, hp, hfamily, by rw [id, hversion]⟩

/-- **Which comments are run.** The family, the id and the tag decide. On MySQL an `M`
switches off every number but `0`. Otherwise smaller numbers are run wherever greater
ones are, and later versions run what earlier ones do, with one exception: without an
`M`, MariaDB passes over the numbers from 50700 to 99999 from 10.0.7 on. -/
theorem comments_run_by_tag (p : Platform) (hp : p.family = .mysql ∨ p.family = .mariaDb) :
    (∀ s, p.runsComment s = true → ∃ t, CommentTag.Writes s t)
    ∧ (∀ s t u, CommentTag.Writes s t → CommentTag.Writes s u → t = u)
    ∧ (∀ (q : Platform) s s' t, q.family = p.family → q.id = p.id → CommentTag.Writes s t →
        CommentTag.Writes s' t → q.runsComment s' = p.runsComment s)
    ∧ (∀ s b, CommentTag.Writes s ⟨b, 0⟩ → p.runsComment s = true)
    ∧ (∀ s n, p.family = .mysql → 0 < n → CommentTag.Writes s ⟨true, n⟩ →
        p.runsComment s = false)
    ∧ (∀ (q : Platform) s s' b m n, p.family = .mysql ∧ b = false ∨ p.family = .mariaDb ∧ b = true →
        q.family = p.family → p.id ≤ q.id → m ≤ n → CommentTag.Writes s ⟨b, n⟩ →
        CommentTag.Writes s' ⟨b, m⟩ → p.runsComment s = true → q.runsComment s' = true)
    ∧ (∀ s s' n, p.family = .mariaDb → CommentTag.Writes s ⟨false, n⟩ →
        CommentTag.Writes s' ⟨true, n⟩ →
        (p.runsComment s = true ↔
          p.runsComment s' = true ∧ ¬(50700 ≤ n ∧ n ≤ 99999 ∧ 100007 ≤ p.id)))
    ∧ ∀ (q : Platform) s, q.family = p.family → p.id ≤ q.id →
        (p.runsComment s = true ∧ q.runsComment s = false ↔
          p.family = .mariaDb ∧ ∃ n, CommentTag.Writes s ⟨false, n⟩ ∧ 50700 ≤ n ∧ n ≤ 99999
            ∧ n < p.id ∧ p.id < 100007 ∧ 100007 ≤ q.id) := by
  refine ⟨?_, ?_, ?_, ?_, ?_, ?_, ?_, ?_⟩
  · intro s hrun
    exact exists_writes_of_runsComment hrun
  · intro s t u ht hu
    exact ht.unique hu
  · intro q s s' t hfamily hid hs hs'
    rw [runsComment_of_writes hs', runsComment_of_writes hs, hfamily, hid]
  · intro s b hs
    rw [runsComment_of_writes hs]
    rcases hp with hfamily | hfamily
    · rw [hfamily, CommentTag.runsOn_mysql]
      exact Or.inl rfl
    · rw [hfamily, CommentTag.runsOn_mariaDb]
      exact Or.inl rfl
  · intro s n hfamily hpos hs
    rw [runsComment_of_writes hs, hfamily, ← Bool.not_eq_true, CommentTag.runsOn_mysql]
    intro hrun
    rcases hrun with hzero | ⟨hmark, -⟩
    · exact Nat.ne_of_gt hpos hzero
    · cases hmark
  · intro q s s' b m n hb hfamily hid hnumber hs hs' hrun
    rw [runsComment_of_writes hs] at hrun
    rw [runsComment_of_writes hs', hfamily]
    exact CommentTag.runsOn_of_le hb hnumber hid hrun
  · intro s s' n hfamily hs hs'
    rw [runsComment_of_writes hs, runsComment_of_writes hs', hfamily]
    exact CommentTag.runsOn_unmarked_iff
  · intro q s hfamily hid
    constructor
    · intro h
      obtain ⟨hrun, hstop⟩ := h
      obtain ⟨⟨b, n⟩, ht⟩ := exists_writes_of_runsComment hrun
      rw [runsComment_of_writes ht] at hrun hstop
      rw [hfamily] at hstop
      obtain ⟨hmaria, rfl, hrest⟩ :=
        (CommentTag.runsOn_switched_off_iff hp hid).mp ⟨hrun, hstop⟩
      exact ⟨hmaria, n, ht, hrest⟩
    · intro h
      obtain ⟨hmaria, n, hs, hrest⟩ := h
      rw [runsComment_of_writes hs, runsComment_of_writes hs, hfamily]
      exact (CommentTag.runsOn_switched_off_iff hp hid).mpr ⟨hmaria, rfl, hrest⟩

/-- MariaDB 10.0.6 runs the comments that are tagged for MySQL 5.7.8, and MariaDB 10.0.7
does not. -/
theorem comments_run_by_tag_ten_zero_seven :
    ∃ p q, build Catalog.shipped .mariaDb ⟨10, some 0, some 6⟩ = .ok p
      ∧ build Catalog.shipped .mariaDb ⟨10, some 0, some 7⟩ = .ok q
      ∧ p.family = .mariaDb ∧ CommentTag.Writes "50708" ⟨false, 50708⟩
      ∧ p.runsComment "50708" = true ∧ q.runsComment "50708" = false := by
  obtain ⟨p, hp, hpfamily, hpid⟩ := exists_shipped (f := .mariaDb) rfl ⟨10, some 0, some 6⟩
  obtain ⟨q, hq, hqfamily, hqid⟩ := exists_shipped (f := .mariaDb) rfl ⟨10, some 0, some 7⟩
  have hwrites : CommentTag.Writes "50708" ⟨false, 50708⟩ :=
    CommentTag.parse?_eq_some_iff.mp (by decide)
  have hupgrade : p.id ≤ q.id := by
    rw [hpid, hqid]
    decide
  have hacross : 50708 < p.id ∧ p.id < 100007 ∧ 100007 ≤ q.id := by
    rw [hpid, hqid]
    decide
  obtain ⟨-, -, -, -, -, -, -, hoff⟩ := comments_run_by_tag p (Or.inr hpfamily)
  have hswitch := (hoff q "50708" (hqfamily.trans hpfamily.symm) hupgrade).mpr
    ⟨hpfamily, 50708, hwrites, by omega, by omega, hacross⟩
  exact ⟨p, q, hp, hq, hpfamily, hwrites, hswitch⟩

/-! ## Comments for a version -/

/-- The tag with the number `n` for versions of the platform's own family: the number
itself on MySQL, the number after an `M` on MariaDB. -/
def VersionTag (p : Platform) (n : Nat) (tag : String) : Prop :=
  p.family = .mysql ∧ tag = toString n
    ∨ p.family = .mariaDb ∧ (tag = "M" ++ toString n ∨ tag = "m" ++ toString n)

theorem runsComment_versionTag {p : Platform} {n : Nat} {tag : String} (htag : p.VersionTag n tag)
    (hpos : 0 < n) (hbound : n < 2 ^ 32) : p.runsComment tag = true ↔ n < p.id := by
  have hne : n ≠ 0 := Nat.ne_of_gt hpos
  rcases htag with ⟨hfamily, rfl⟩ | ⟨hfamily, hmark⟩
  · rw [runsComment_of_writes (CommentTag.writes_toString hbound), hfamily,
      CommentTag.runsOn_mysql]
    simp [hne]
  · have hwrites : CommentTag.Writes tag ⟨true, n⟩ := by
      rcases hmark with rfl | rfl
      · exact CommentTag.writes_mark_toString (Or.inl rfl) hbound
      · exact CommentTag.writes_mark_toString (Or.inr rfl) hbound
    rw [runsComment_of_writes hwrites, hfamily, CommentTag.runsOn_mariaDb]
    simp [hne]

theorem satisfies_least {p : Platform} {n : Nat} :
    p.satisfies none (some n) none = true ↔ n ≤ p.id := by
  simp [satisfies]

/-- **Comments start after their version.** The comments that are tagged with a version of
the platform's own family are run exactly on the versions after it. The condition that has
this version as its least one holds on the version too, so the two tests agree on every
platform but that of the version itself. -/
theorem comments_start_after_version (p : Platform) (n : Nat) (tag : String)
    (htag : p.VersionTag n tag) (hpos : 0 < n) (hbound : n < 2 ^ 32) :
    (p.runsComment tag = true ↔ n < p.id)
    ∧ (p.satisfies none (some n) none = true ↔ n ≤ p.id)
    ∧ (p.runsComment tag = p.satisfies none (some n) none ↔ n ≠ p.id) := by
  have hrun := runsComment_versionTag htag hpos hbound
  have hleast : p.satisfies none (some n) none = true ↔ n ≤ p.id := satisfies_least
  refine ⟨hrun, hleast, ?_⟩
  rw [Bool.eq_iff_iff, hrun, hleast]
  constructor
  · intro hagree heq
    have hlt : n < p.id := hagree.mpr (Nat.le_of_eq heq)
    exact Nat.ne_of_lt hlt heq
  · intro hne
    exact ⟨Nat.le_of_lt, fun hle => Nat.lt_of_le_of_ne hle hne⟩

/-- The first patch of MariaDB 10.3 that runs the comments for 10.3.0. -/
theorem comments_start_after_version_ten_three :
    ∃ p, build Catalog.shipped .mariaDb ⟨10, some 3, some 1⟩ = .ok p
      ∧ p.VersionTag 100300 "M100300" ∧ 0 < 100300 ∧ 100300 < 2 ^ 32
      ∧ p.runsComment "M100300" = true ∧ p.satisfies none (some 100300) none = true := by
  obtain ⟨p, hp, hfamily, hid⟩ := exists_shipped (f := .mariaDb) rfl ⟨10, some 3, some 1⟩
  have hlt : 100300 < p.id := by
    rw [hid]
    decide
  have htag : p.VersionTag 100300 "M100300" := Or.inr ⟨hfamily, Or.inl (by decide)⟩
  obtain ⟨hrun, hleast, -⟩ :=
    comments_start_after_version p 100300 "M100300" htag (by omega) (by omega)
  exact ⟨p, hp, htag, by omega, by omega, hrun.mpr hlt, hleast.mpr (Nat.le_of_lt hlt)⟩

/-- MySQL 5.7.8 does not run the comments for 5.7.8, and it is a version from 5.7.8 on. -/
theorem comment_for_own_version_not_run :
    ∃ p, build Catalog.shipped .mysql ⟨5, some 7, some 8⟩ = .ok p
      ∧ p.runsComment "50708" = false ∧ p.satisfies none (some 50708) none = true := by
  obtain ⟨p, hp, hfamily, hid⟩ := exists_shipped (f := .mysql) rfl ⟨5, some 7, some 8⟩
  have hown : 50708 = p.id := by
    rw [hid]
    decide
  have htag : p.VersionTag 50708 "50708" := Or.inl ⟨hfamily, by decide⟩
  refine ⟨p, hp, ?_, satisfies_least.mpr (Nat.le_of_eq hown)⟩
  rw [← Bool.not_eq_true, runsComment_versionTag htag (by omega) (by omega)]
  exact Nat.not_lt_of_le (Nat.le_of_eq hown.symm)

end Platform

end SqlDialect
