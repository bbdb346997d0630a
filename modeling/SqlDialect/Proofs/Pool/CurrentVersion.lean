import SqlDialect.Proofs.Platform.Reply
import SqlDialect.Proofs.Pool.Transparency

/-!
# The current version is all that can be changed

A run can be told apart from the same run without its changes of a current version
(`withoutChanges`) by the two questions that show the current version, and by
nothing else. The proof runs both side by side: the pool of the shorter run *is* the
pool of the longer one with every platform as it was built (`run_withoutChanges`),
because each step that changes nothing commutes with `asBuilt` (`step_asBuilt`) and
a change is forgotten by it (`asBuilt_setCurrent`).

What the two questions show is the last version that was set in the slot
(`LastSet`), however often the platform was asked for in between, and the version
of the first request for it where none was (`shows_iff`).
-/

namespace SqlDialect

/-! ## Platforms as they were built -/

namespace Platform

/-- The platform as it was when it was built. -/
def asBuilt (p : Platform) : Platform := p.setCurrent p.version

/-- The two questions for the current version show `v`. -/
def Shows (p : Platform) (v : Version) : Prop :=
  p.reply .current = .version v ∧ p.reply .display = .text (p.family.displayName ++ " " ++ v.text)

theorem shows_iff (p : Platform) (v : Version) : p.Shows v ↔ p.current = v := by
  constructor
  · rintro ⟨hcurrent, -⟩
    exact Reply.version.inj hcurrent
  · rintro rfl
    exact ⟨rfl, rfl⟩

theorem asBuilt_of_build {catalog : Catalog} {f : Family} {v : Version} {p : Platform}
    (h : build catalog f v = .ok p) : p.asBuilt = p := by
  obtain ⟨-, hversion, hcurrent, -⟩ := build_ok h
  rw [asBuilt, hversion, ← hcurrent]
  rfl

theorem reply_asBuilt (p : Platform) {question : Query} (h : question.showsCurrent = false) :
    p.asBuilt.reply question = p.reply question :=
  (p.alike_setCurrent p.version).reply h

end Platform

def Pooled.asBuilt (a : Pooled) : Pooled := ⟨a.slot, a.platform.asBuilt⟩

namespace Pool

def asBuilt (p : Pool) : Pool := ⟨p.entries.map fun (key, q) => (key, q.asBuilt)⟩

def Outcome.asBuilt : Outcome → Outcome
  | .granted a => .granted a.asBuilt
  | r => r

theorem size_asBuilt (p : Pool) : p.asBuilt.size = p.size := by
  simp only [size, asBuilt, List.length_map]

theorem platform?_asBuilt (p : Pool) (slot : Nat) :
    p.asBuilt.platform? slot = (p.platform? slot).map Platform.asBuilt := by
  simp only [platform?, asBuilt, List.getElem?_map, Option.map_map]
  rfl

theorem reply_platform?_asBuilt (p : Pool) (slot : Nat) {question : Query}
    (h : question.showsCurrent = false) :
    (p.asBuilt.platform? slot).map (·.reply question)
      = (p.platform? slot).map (·.reply question) := by
  rw [platform?_asBuilt, Option.map_map]
  congr 1
  funext q
  exact q.reply_asBuilt h

theorem find?_asBuilt (p : Pool) (key : PlatformKey) :
    p.asBuilt.find? key = (p.find? key).map Pooled.asBuilt := by
  simp only [find?, asBuilt, List.zipIdx_map, List.find?_map, Option.map_map]
  rfl

theorem asBuilt_setCurrent (p : Pool) (slot : Nat) (v : Version) :
    (p.setCurrent slot v).asBuilt = p.asBuilt := by
  refine congrArg Pool.mk (List.ext_getElem? fun k => ?_)
  rw [List.getElem?_map, setCurrent_getElem?, List.getElem?_map, Option.map_map]
  congr 1
  funext ⟨key, q⟩
  show (key, (if slot = k then q.setCurrent v else q).asBuilt) = (key, q.asBuilt)
  split
  · rfl
  · rfl

/-! ## A step and a run without changes -/

theorem fetch_asBuilt (catalog : Catalog) (p : Pool) (f : Family) (v : Version) :
    p.asBuilt.fetch catalog f v
      = (p.fetch catalog f v).map asBuilt (Except.map Pooled.asBuilt) := by
  unfold fetch
  simp only [find?_asBuilt]
  cases p.find? ⟨f, v.id⟩ with
  | some found => rfl
  | none =>
      cases hbuild : Platform.build catalog f v with
      | error e => rfl
      | ok q =>
          have hq := Platform.asBuilt_of_build hbuild
          simp [Prod.map, Except.map, asBuilt, Pooled.asBuilt, size, hq]

theorem requestFamily_asBuilt (catalog : Catalog) (p : Pool) (f : Family)
    (version : VersionRequest) :
    p.asBuilt.requestFamily catalog f version
      = (p.requestFamily catalog f version).map asBuilt (Except.map Pooled.asBuilt) := by
  unfold requestFamily
  cases version.resolve f with
  | error e => rfl
  | ok v => exact fetch_asBuilt catalog p f v

theorem request_asBuilt (catalog : Catalog) (p : Pool) (family : String)
    (version : VersionRequest) :
    p.asBuilt.request catalog family version
      = (p.request catalog family version).map asBuilt (Except.map Pooled.asBuilt) := by
  unfold request
  cases Family.parse family with
  | error e => rfl
  | ok f => exact requestFamily_asBuilt catalog p f version

theorem asStep_asBuilt (r : Pool × Except Error Pooled) :
    asStep (r.map asBuilt (Except.map Pooled.asBuilt))
      = (asStep r).map asBuilt Outcome.asBuilt := by
  rcases r with ⟨p, e | a⟩
  · rfl
  · rfl

def Step.changesCurrent : Step → Bool
  | .setCurrent _ _ => true
  | _ => false

def Step.showsCurrent : Step → Bool
  | .query _ question => question.showsCurrent
  | _ => false

/-- A step that neither changes nor shows a current version takes no notice of it. -/
theorem step_asBuilt (catalog : Catalog) (p : Pool) {s : Step}
    (hchanges : s.changesCurrent = false) (hshows : s.showsCurrent = false) :
    p.asBuilt.step catalog s = (p.step catalog s).map asBuilt Outcome.asBuilt := by
  cases s with
  | request family version => rw [step, step, request_asBuilt, asStep_asBuilt]
  | requestFamily f version => rw [step, step, requestFamily_asBuilt, asStep_asBuilt]
  | requestTag family tag =>
      rw [step, step, requestTag, requestTag, request_asBuilt, asStep_asBuilt]
  | setCurrent slot v => cases hchanges
  | query slot question => rw [step, step, reply_platform?_asBuilt p slot hshows]; rfl
  | hasBuiltin f id name => rfl
  | size => rw [step, step, size_asBuilt]; rfl

theorem step_asBuilt_fst (catalog : Catalog) (p : Pool) {s : Step}
    (hchanges : s.changesCurrent = false) :
    (p.asBuilt.step catalog s).1 = (p.step catalog s).1.asBuilt := by
  cases hshows : s.showsCurrent with
  | false => rw [step_asBuilt catalog p hchanges hshows]; rfl
  | true =>
      cases s with
      | query slot question => rfl
      | _ => cases hshows

def withoutChanges (steps : List Step) : List Step := steps.filter (!·.changesCurrent)

/-- Where the step after the first `n` stands in the run without changes. -/
def place (steps : List Step) (n : Nat) : Nat := (withoutChanges (steps.take n)).length

theorem run_withoutChanges (catalog : Catalog) (p : Pool) (steps : List Step) :
    run catalog p.asBuilt (withoutChanges steps) = (run catalog p steps).asBuilt := by
  induction steps generalizing p with
  | nil => rfl
  | cons s steps ih =>
      show _ = (run catalog (p.step catalog s).1 steps).asBuilt
      rw [← ih]
      cases hs : s.changesCurrent with
      | true =>
          cases s with
          | setCurrent slot v =>
              show _ = run catalog (p.setCurrent slot v).asBuilt (withoutChanges steps)
              rw [asBuilt_setCurrent]
              rfl
          | _ => cases hs
      | false =>
          have hkept : withoutChanges (s :: steps) = s :: withoutChanges steps := by
            simp [withoutChanges, hs]
          rw [hkept, ← step_asBuilt_fst catalog p hs]
          rfl

theorem withoutChanges_eq_append (steps : List Step) (n : Nat) :
    withoutChanges steps = withoutChanges (steps.take n) ++ withoutChanges (steps.drop n) := by
  rw [withoutChanges, withoutChanges, withoutChanges, ← List.filter_append, List.take_append_drop]

/-- At every point of a run, the run without its changes has the same pool up to the
current versions. -/
theorem after_withoutChanges (catalog : Catalog) (steps : List Step) (n : Nat) :
    after catalog (withoutChanges steps) (place steps n) = (after catalog steps n).asBuilt := by
  have htake : (withoutChanges steps).take (place steps n) = withoutChanges (steps.take n) := by
    rw [withoutChanges_eq_append steps n, place, List.take_left]
  rw [after, htake]
  exact run_withoutChanges catalog empty (steps.take n)

theorem withoutChanges_getElem? {steps : List Step} {n : Nat} {s : Step}
    (hs : steps[n]? = some s) (hchanges : s.changesCurrent = false) :
    (withoutChanges steps)[place steps n]? = some s := by
  obtain ⟨hlt, rfl⟩ := List.getElem?_eq_some_iff.mp hs
  rw [withoutChanges_eq_append steps n, place, List.getElem?_append_right (Nat.le_refl _),
    Nat.sub_self, List.drop_eq_getElem_cons hlt, withoutChanges,
    List.filter_cons_of_pos (by rw [hchanges]; rfl)]
  rfl

/-! ## What the current version is -/

/-- Step `i` of the run sets the current version of the platform in the slot. -/
def SetAt (catalog : Catalog) (steps : List Step) (i slot : Nat) (v : Version) : Prop :=
  steps[i]? = some (.setCurrent slot v) ∧ slot < (after catalog steps i).size

/-- The last version that was set in the slot by the first `n` steps. -/
def LastSet (catalog : Catalog) (steps : List Step) (n slot : Nat) (v : Version) : Prop :=
  ∃ i, i < n ∧ SetAt catalog steps i slot v ∧
    ∀ j w, i < j → j < n → ¬ SetAt catalog steps j slot w

/-- No version was set in the slot by the first `n` steps. -/
def NeverSet (catalog : Catalog) (steps : List Step) (n slot : Nat) : Prop :=
  ∀ i v, i < n → ¬ SetAt catalog steps i slot v

theorem setCurrent_entry {p : Pool} {slot k : Nat} {v : Version} {key : PlatformKey} {q : Platform}
    (hk : (p.setCurrent slot v).entries[k]? = some (key, q)) :
    k < p.size ∧ if slot = k then q.current = v else p.entries[k]? = some (key, q) := by
  rw [setCurrent_getElem?] at hk
  obtain ⟨⟨key', q'⟩, hold, heq⟩ := Option.map_eq_some_iff.mp hk
  obtain ⟨rfl, rfl⟩ := Prod.mk.injEq .. |>.mp heq
  refine ⟨(List.getElem?_eq_some_iff.mp hold).1, ?_⟩
  split
  · rfl
  · exact hold

/-- A platform that is in the pool after some other step was there before with the
same current version, or was built by the step. -/
theorem Move.entry_of_no_change {catalog : Catalog} {p : Pool} {s : Step}
    {next : Pool × Outcome} (h : Move catalog p s next) (hs : ∀ slot v, s ≠ .setCurrent slot v)
    {k : Nat} {key : PlatformKey} {q : Platform} (hk : next.1.entries[k]? = some (key, q)) :
    p.entries[k]? = some (key, q) ∨ (p.size ≤ k ∧ q.current = q.version) := by
  cases h with
  | found htarget hfind => exact Or.inl hk
  | @built f v r htarget hfind hbuild =>
      rcases Nat.lt_or_ge k p.entries.length with hlt | hge
      · rw [List.getElem?_append_left hlt] at hk
        exact Or.inl hk
      · rw [List.getElem?_append_right hge] at hk
        obtain ⟨rfl, rfl⟩ := Prod.mk.injEq .. |>.mp
          (List.mem_singleton.mp (List.mem_of_getElem? hk))
        obtain ⟨-, hversion, hcurrent, -⟩ := Platform.build_ok hbuild
        exact Or.inr ⟨hge, hcurrent.trans hversion.symm⟩
  | refused hbuild => exact Or.inl hk
  | @changed slot v hchange => exact absurd hchange (hs slot v)
  | asked htarget hgranted => exact Or.inl hk

/-- After a step, a platform has the current version that the step set in its slot;
and if it set none, the platform is as it was before, or was built just now. -/
theorem step_entry {catalog : Catalog} {p : Pool} {s : Step} {k : Nat} {key : PlatformKey}
    {q : Platform} (hk : (p.step catalog s).1.entries[k]? = some (key, q)) :
    (s = .setCurrent k q.current ∧ k < p.size)
      ∨ ((∀ v, s ≠ .setCurrent k v) ∧
        (p.entries[k]? = some (key, q) ∨ (p.size ≤ k ∧ q.current = q.version))) := by
  by_cases hs : ∃ slot v, s = .setCurrent slot v
  · obtain ⟨slot, v, rfl⟩ := hs
    obtain ⟨hlt, hcase⟩ := setCurrent_entry hk
    split at hcase
    · rename_i hslot
      rw [hslot, hcase]
      exact Or.inl ⟨rfl, hlt⟩
    · rename_i hslot
      exact Or.inr ⟨fun w heq => hslot (Step.setCurrent.inj heq).1, Or.inl hcase⟩
  · have hnone : ∀ slot v, s ≠ .setCurrent slot v := fun slot v heq => hs ⟨slot, v, heq⟩
    exact Or.inr ⟨hnone k, (step_move catalog p s).entry_of_no_change hnone hk⟩

section LastSet

variable {catalog : Catalog} {steps : List Step} {n slot : Nat} {v w : Version}

theorem LastSet.unique (h : LastSet catalog steps n slot v) (h' : LastSet catalog steps n slot w) :
    v = w := by
  obtain ⟨i, hi, hset, hlast⟩ := h
  obtain ⟨j, hj, hset', hlast'⟩ := h'
  rcases Nat.lt_trichotomy i j with hij | rfl | hij
  · exact absurd hset' (hlast j w hij hj)
  · exact (Step.setCurrent.inj (Option.some.inj (hset.1.symm.trans hset'.1))).2
  · exact absurd hset (hlast' i v hij hi)

theorem LastSet.not_neverSet (h : LastSet catalog steps n slot v) :
    ¬ NeverSet catalog steps n slot := by
  obtain ⟨i, hi, hset, -⟩ := h
  exact fun hnever => hnever i v hi hset

theorem LastSet.succ (h : LastSet catalog steps n slot v)
    (hn : ∀ w, ¬ SetAt catalog steps n slot w) : LastSet catalog steps (n + 1) slot v := by
  obtain ⟨i, hi, hset, hlast⟩ := h
  refine ⟨i, by omega, hset, fun j w hij hj => ?_⟩
  rcases Nat.lt_succ_iff_lt_or_eq.mp hj with hlt | rfl
  · exact hlast j w hij hlt
  · exact hn w

theorem NeverSet.succ (h : NeverSet catalog steps n slot)
    (hn : ∀ w, ¬ SetAt catalog steps n slot w) : NeverSet catalog steps (n + 1) slot := by
  intro i w hi
  rcases Nat.lt_succ_iff_lt_or_eq.mp hi with hlt | rfl
  · exact h i w hlt
  · exact hn w

theorem neverSet_of_size_le (h : (after catalog steps n).size ≤ slot) :
    NeverSet catalog steps n slot := by
  rintro i v hi ⟨-, hlt⟩
  obtain ⟨w, hw⟩ := extends_after catalog steps (Nat.le_of_lt hi) slot _ _
    (List.getElem?_eq_getElem hlt)
  have hfilled : slot < (after catalog steps n).size := (List.getElem?_eq_some_iff.mp hw).1
  omega

end LastSet

/-- The current version of a platform is the last one that was set, or that for
which it was built. -/
theorem current_after (catalog : Catalog) (steps : List Step) {n slot : Nat} {key : PlatformKey}
    {q : Platform} (hq : (after catalog steps n).entries[slot]? = some (key, q)) :
    LastSet catalog steps n slot q.current
      ∨ (NeverSet catalog steps n slot ∧ q.current = q.version) := by
  induction n with
  | zero => simp [after, run, empty] at hq
  | succ n ih =>
      cases hs : steps[n]? with
      | none =>
          rw [after_succ_of_end hs] at hq
          have hn : ∀ w, ¬ SetAt catalog steps n slot w := by
            rintro w ⟨hset, -⟩
            rw [hs] at hset
            cases hset
          exact (ih hq).imp (·.succ hn) (And.imp_left (·.succ hn))
      | some s =>
          rw [after_succ hs] at hq
          rcases step_entry hq with ⟨rfl, hlt⟩ | ⟨hother, hcase⟩
          · exact Or.inl ⟨n, by omega, ⟨hs, hlt⟩, fun j w hnj hj => by omega⟩
          · have hn : ∀ w, ¬ SetAt catalog steps n slot w := by
              rintro w ⟨hset, -⟩
              exact hother w (Option.some.inj (hs.symm.trans hset))
            rcases hcase with hold | ⟨hge, hbuilt⟩
            · exact (ih hold).imp (·.succ hn) (And.imp_left (·.succ hn))
            · exact Or.inr ⟨(neverSet_of_size_le hge).succ hn, hbuilt⟩

theorem version_after (catalog : Catalog) (steps : List Step) {n slot : Nat} {key : PlatformKey}
    {q : Platform} (hq : (after catalog steps n).entries[slot]? = some (key, q)) :
    firstVersion? (steps.take n) key = some q.version := by
  obtain ⟨w, q₀, c, hfirst, hbuild, rfl⟩ := (traced_run catalog (steps.take n)).kept hq
  obtain ⟨-, hversion, -, -⟩ := Platform.build_ok hbuild
  rw [hfirst]
  exact congrArg some hversion.symm

theorem shows_iff (catalog : Catalog) (steps : List Step) {n slot : Nat} {key : PlatformKey}
    {q : Platform} (hq : (after catalog steps n).entries[slot]? = some (key, q)) (v : Version) :
    q.Shows v ↔ LastSet catalog steps n slot v
      ∨ (NeverSet catalog steps n slot ∧ firstVersion? (steps.take n) key = some v) := by
  rw [Platform.shows_iff, version_after catalog steps hq, Option.some.injEq]
  rcases current_after catalog steps hq with hlast | ⟨hnever, hversion⟩
  · constructor
    · rintro rfl
      exact Or.inl hlast
    · rintro (hv | ⟨hnever, -⟩)
      · exact hlast.unique hv
      · exact absurd hnever hlast.not_neverSet
  · rw [hversion]
    constructor
    · intro hv
      exact Or.inr ⟨hnever, hv⟩
    · rintro (hv | ⟨-, hv⟩)
      · exact absurd hnever hv.not_neverSet
      · exact hv

/-! ## The headline theorem -/

/-- **Changes of a current version show in the current version only.** Without its
changes a run has the same refusals, slots and replies, but for the two questions that
show the current version. These show the last version that was set in the slot or, if
none was, that of the first request for the platform. What a request is granted is the
platform in the slot, not a copy of it. -/
theorem changes_show_in_current_version_only (catalog : Catalog) (steps : List Step) :
    (∀ n s, steps[n]? = some s → s.changesCurrent = false →
      (withoutChanges steps)[place steps n]? = some s ∧
        (s.showsCurrent = false →
          ((after catalog (withoutChanges steps) (place steps n)).step catalog s).2
            = ((after catalog steps n).step catalog s).2.asBuilt))
    ∧ (∀ n,
        (after catalog (withoutChanges steps) (place steps n)).size
          = (after catalog steps n).size ∧
        ∀ slot (question : Query), question.showsCurrent = false →
          ((after catalog (withoutChanges steps) (place steps n)).platform? slot).map
              (·.reply question)
            = ((after catalog steps n).platform? slot).map (·.reply question))
    ∧ (∀ n slot key q v, (after catalog steps n).entries[slot]? = some (key, q) →
        (q.Shows v ↔ LastSet catalog steps n slot v
          ∨ (NeverSet catalog steps n slot ∧ firstVersion? (steps.take n) key = some v)))
    ∧ (∀ i s a, GrantedAt catalog steps i s a →
        ∃ key, (after catalog steps (i + 1)).entries[a.slot]? = some (key, a.platform)) := by
  refine ⟨?_, ?_, ?_, ?_⟩
  · intro n s hs hchanges
    refine ⟨withoutChanges_getElem? hs hchanges, fun hshows => ?_⟩
    rw [after_withoutChanges, step_asBuilt catalog _ hchanges hshows]
    rfl
  · intro n
    rw [after_withoutChanges]
    exact ⟨size_asBuilt _, fun slot question h => reply_platform?_asBuilt _ slot h⟩
  · intro n slot key q v hq
    exact shows_iff catalog steps hq v
  · intro i s a hgranted
    obtain ⟨f, v, -, hentry⟩ := hgranted.entry
    exact ⟨⟨f, v.id⟩, hentry⟩

theorem fetch_of_build {catalog : Catalog} {p : Pool} {f : Family} {v : Version} {q : Platform}
    (hfind : p.find? ⟨f, v.id⟩ = none) (hbuild : Platform.build catalog f v = .ok q) :
    p.fetch catalog f v = (⟨p.entries ++ [(⟨f, v.id⟩, q)]⟩, .ok ⟨p.size, q⟩) := by
  simp only [fetch, hfind, hbuild]

def changeBetween : List Step :=
  [.requestFamily .mysql (.text "8.0"), .setCurrent 0 ⟨5, some 7, none⟩,
    .requestFamily .mysql (.number 80099)]

/-- The second request is granted the platform of the first, which shows the version
that was set. Without the change it is granted the same platform, as it was built. -/
theorem changes_show_in_current_version_only_between :
    ∃ a b, GrantedAt Catalog.shipped changeBetween 0 (.requestFamily .mysql (.text "8.0")) a
      ∧ GrantedAt Catalog.shipped changeBetween 2 (.requestFamily .mysql (.number 80099)) b
      ∧ b.slot = a.slot ∧ b.platform.Shows ⟨5, some 7, none⟩
      ∧ ((after Catalog.shipped (withoutChanges changeBetween) 1).step Catalog.shipped
          (.requestFamily .mysql (.number 80099))).2 = .granted b.asBuilt := by
  have htext : VersionRequest.resolve (.text "8.0") .mysql = .ok ⟨8, some 0, none⟩ := rfl
  have hnumber : VersionRequest.resolve (.number 80099) .mysql = .ok ⟨8, some 0, some 99⟩ := rfl
  obtain ⟨q, hbuild⟩ := Platform.build_shipped (f := .mysql) rfl ⟨8, some 0, none⟩
  -- the run, with the platform of the first request as it came
  have hzero : after Catalog.shipped changeBetween 0 = empty := rfl
  have hfirst : (after Catalog.shipped changeBetween 0).step Catalog.shipped
      (.requestFamily .mysql (.text "8.0")) = (⟨[(⟨.mysql, 80099⟩, q)]⟩, .granted ⟨0, q⟩) := by
    rw [hzero, step, requestFamily_of_resolve htext, fetch_of_build rfl hbuild]
    rfl
  have hone : after Catalog.shipped changeBetween 1 = ⟨[(⟨.mysql, 80099⟩, q)]⟩ := by
    rw [after_succ rfl, hfirst]
  have htwo : after Catalog.shipped changeBetween 2
      = ⟨[(⟨.mysql, 80099⟩, q.setCurrent ⟨5, some 7, none⟩)]⟩ := by
    rw [after_succ rfl, hone]
    rfl
  have hagain : ((after Catalog.shipped changeBetween 2).step Catalog.shipped
      (.requestFamily .mysql (.number 80099))).2
        = .granted ⟨0, q.setCurrent ⟨5, some 7, none⟩⟩ := by
    rw [htwo, step, requestFamily, hnumber]
    rfl
  have hset : LastSet Catalog.shipped changeBetween 2 0 ⟨5, some 7, none⟩ := by
    refine ⟨1, by omega, ⟨rfl, ?_⟩, fun j w hj hj' => by omega⟩
    rw [hone]
    exact Nat.one_pos
  obtain ⟨hsame, -, hcurrent, -⟩ :=
    changes_show_in_current_version_only Catalog.shipped changeBetween
  refine ⟨⟨0, q⟩, ⟨0, q.setCurrent ⟨5, some 7, none⟩⟩, ⟨rfl, by rw [hfirst]⟩, ⟨rfl, hagain⟩, rfl,
    ?_, ?_⟩
  · exact (hcurrent 2 0 ⟨.mysql, 80099⟩ _ _ (by rw [htwo]; rfl)).mpr (Or.inl hset)
  · have hplace : place changeBetween 2 = 1 := rfl
    obtain ⟨-, houtcome⟩ := hsame 2 _ rfl rfl
    rw [hplace, hagain] at houtcome
    exact houtcome rfl

end Pool

end SqlDialect
