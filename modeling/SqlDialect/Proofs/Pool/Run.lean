import Mathlib.Data.Set.Card
import SqlDialect.Proofs.Pool.Step
import SqlDialect.Proofs.Text.Split

/-!
# Runs of a pool

What holds after every prefix of every run of a pool that starts empty, however
requests, changes of a current version and questions are mixed.

- `Sound`: no key occurs twice, and the platform of a key is of the key's family
  and id, which is one of the lineage.
- `Extends`: a slot that was filled keeps its key and its platform for ever, up
  to the current version. This is what makes a slot the identity of a platform.
- `mem_keys_after`: the keys are those of the requests that were granted.

`run_one_platform_per_key` puts these together.
-/

namespace SqlDialect

namespace Pool

/-! ## Prefixes of a run -/

/-- The pool after the first `n` steps of a run that starts empty. -/
def after (catalog : Catalog) (steps : List Step) (n : Nat) : Pool :=
  run catalog empty (steps.take n)

/-- Step `i` of the run is the request `s`, and it is granted `a`. -/
def GrantedAt (catalog : Catalog) (steps : List Step) (i : Nat) (s : Step) (a : Pooled) : Prop :=
  steps[i]? = some s ∧ ((after catalog steps i).step catalog s).2 = .granted a

theorem after_succ {catalog : Catalog} {steps : List Step} {n : Nat} {s : Step}
    (hs : steps[n]? = some s) :
    after catalog steps (n + 1) = ((after catalog steps n).step catalog s).1 := by
  simp [after, run, List.take_add_one, hs]

theorem after_succ_of_end {catalog : Catalog} {steps : List Step} {n : Nat}
    (hs : steps[n]? = none) : after catalog steps (n + 1) = after catalog steps n := by
  simp [after, run, List.take_add_one, hs]

/-- What the empty pool has and every step keeps, every prefix of a run has. -/
theorem after_induction {catalog : Catalog} {P : Pool → Prop} (hempty : P empty)
    (hstep : ∀ p s, P p → P (p.step catalog s).1) (steps : List Step) (n : Nat) :
    P (after catalog steps n) := by
  induction n with
  | zero => exact hempty
  | succ n ih =>
      cases hs : steps[n]? with
      | none => rw [after_succ_of_end hs]; exact ih
      | some s => rw [after_succ hs]; exact hstep _ s ih

/-! ## Changing a current version -/

theorem setCurrent_getElem? (p : Pool) (slot : Nat) (v : Version) (k : Nat) :
    (p.setCurrent slot v).entries[k]? = p.entries[k]?.map fun (key, q) =>
      (key, if slot = k then q.setCurrent v else q) := by
  simp only [setCurrent, List.getElem?_modify, Option.map_eq_map]
  congr 1
  funext ⟨key, q⟩
  split <;> rfl

@[simp] theorem keys_setCurrent (p : Pool) (slot : Nat) (v : Version) :
    (p.setCurrent slot v).keys = p.keys := by
  refine List.ext_getElem? fun k => ?_
  simp only [keys, List.getElem?_map, setCurrent_getElem?, Option.map_map]
  rfl

/-! ## Soundness -/

/-- No key occurs twice, and every platform is the one of its key. -/
structure Sound (p : Pool) : Prop where
  nodup : p.keys.Nodup
  entry : ∀ {k : Nat} {key : PlatformKey} {q : Platform}, p.entries[k]? = some (key, q) →
    q.family = key.family ∧ q.id = key.id ∧ key.family.isLineage = true

theorem sound_empty : Sound empty := ⟨List.nodup_nil, fun h => by simp [empty] at h⟩

theorem Move.sound {catalog : Catalog} {p : Pool} {s : Step} {next : Pool × Outcome}
    (h : Move catalog p s next) (hp : p.Sound) : next.1.Sound := by
  cases h with
  | found htarget hfind => exact hp
  | @built f v q htarget hfind hbuild =>
      obtain ⟨hfamily, hversion, -, hlineage⟩ := Platform.build_ok hbuild
      refine ⟨?_, fun {k key q'} hk => ?_⟩
      · have hfresh := find?_eq_none_iff.mp hfind
        simp only [keys, List.map_append, List.map_cons, List.map_nil]
        exact List.nodup_append.mpr ⟨hp.nodup, List.nodup_singleton _, by
          rintro key hkey key' hkey' rfl
          exact hfresh (List.mem_singleton.mp hkey' ▸ hkey)⟩
      · rcases Nat.lt_or_ge k p.entries.length with hlt | hge
        · rw [List.getElem?_append_left hlt] at hk
          exact hp.entry hk
        · rw [List.getElem?_append_right hge] at hk
          obtain ⟨rfl, rfl⟩ := Prod.mk.injEq .. |>.mp
            (List.mem_singleton.mp (List.mem_of_getElem? hk))
          exact ⟨hfamily, congrArg Version.id hversion, hlineage⟩
  | refused hbuild => exact hp
  | @changed slot v hs =>
      refine ⟨by simpa using hp.nodup, fun {k key q'} hk => ?_⟩
      rw [setCurrent_getElem?] at hk
      obtain ⟨⟨key', q⟩, hq, heq⟩ := Option.map_eq_some_iff.mp hk
      obtain ⟨rfl, rfl⟩ := Prod.mk.injEq .. |>.mp heq
      obtain ⟨hfamily, hid, hlineage⟩ := hp.entry hq
      split
      · exact ⟨hfamily, hid, hlineage⟩
      · exact ⟨hfamily, hid, hlineage⟩
  | asked htarget hgranted => exact hp

theorem sound_after (catalog : Catalog) (steps : List Step) (n : Nat) :
    (after catalog steps n).Sound :=
  after_induction sound_empty (fun p s hp => (step_move catalog p s).sound hp) steps n

/-! ## Slots are for ever -/

/-- Every filled slot of `p` is filled in `p'` with the same key and the same
platform, up to its current version. -/
def Extends (p p' : Pool) : Prop :=
  ∀ (k : Nat) (key : PlatformKey) (q : Platform), p.entries[k]? = some (key, q) →
    ∃ v, p'.entries[k]? = some (key, q.setCurrent v)

theorem Extends.refl (p : Pool) : p.Extends p := fun _ _ q hq => ⟨q.current, hq⟩

theorem Extends.trans {p p' p'' : Pool} (h : p.Extends p') (h' : p'.Extends p'') :
    p.Extends p'' := by
  intro k key q hq
  obtain ⟨v, hv⟩ := h k key q hq
  obtain ⟨w, hw⟩ := h' k key _ hv
  exact ⟨w, hw⟩

theorem Move.extends {catalog : Catalog} {p : Pool} {s : Step} {next : Pool × Outcome}
    (h : Move catalog p s next) : p.Extends next.1 := by
  cases h with
  | found htarget hfind => exact .refl p
  | built htarget hfind hbuild =>
      intro k key q hq
      have hlt : k < p.entries.length := (List.getElem?_eq_some_iff.mp hq).1
      exact ⟨q.current, by rw [List.getElem?_append_left hlt]; exact hq⟩
  | refused hbuild => exact .refl p
  | @changed slot v hs =>
      intro k key q hq
      rw [setCurrent_getElem?, hq]
      by_cases hk : slot = k
      · exact ⟨v, by simp [hk]⟩
      · exact ⟨q.current, by simp [hk, Platform.setCurrent]⟩
  | asked htarget hgranted => exact .refl p

theorem Move.entries_kept {catalog : Catalog} {p : Pool} {s : Step} {next : Pool × Outcome}
    (h : Move catalog p s next) {f : Family} {v : Version} (htarget : s.target? = some (f, v)) :
    p.entries <+: next.1.entries := by
  cases h with
  | found _ hfind => exact List.prefix_rfl
  | built _ hfind hbuild => exact List.prefix_append ..
  | refused hbuild => exact List.prefix_rfl
  | changed hs =>
      subst hs
      cases htarget
  | asked _ hgranted => exact List.prefix_rfl

theorem extends_after (catalog : Catalog) (steps : List Step) {m n : Nat} (hmn : m ≤ n) :
    (after catalog steps m).Extends (after catalog steps n) := by
  induction hmn with
  | refl => exact .refl _
  | @step n _ ih =>
      cases hs : steps[n]? with
      | none => rw [after_succ_of_end hs]; exact ih
      | some s => rw [after_succ hs]; exact ih.trans (step_move catalog _ s).extends

/-! ## What is granted -/

/-- A request that is granted has a target, and its slot holds the platform of
that target. -/
theorem Move.granted_entry {catalog : Catalog} {p : Pool} {s : Step} {next : Pool × Outcome}
    {a : Pooled} (h : Move catalog p s next) (ha : next.2 = .granted a) :
    ∃ f v, s.target? = some (f, v) ∧
      next.1.entries[a.slot]? = some (⟨f, v.id⟩, a.platform) := by
  cases h with
  | @found f v found htarget hfind =>
      obtain rfl := Outcome.granted.inj ha
      exact ⟨f, v, htarget, find?_eq_some hfind⟩
  | @built f v q htarget hfind hbuild =>
      obtain rfl := Outcome.granted.inj ha
      exact ⟨f, v, htarget, List.getElem?_concat_length⟩
  | refused hbuild => cases ha
  | changed hs => cases ha
  | asked htarget hgranted => exact absurd ha (hgranted a)

theorem target?_requestFamily {f : Family} {r : VersionRequest} {v : Version}
    (hr : r.resolve f = .ok v) : (Step.requestFamily f r).target? = some (f, v) := by
  rw [Step.target?, targetIn?, hr]

/-- With the catalog of the library no request for a version of the lineage is
refused once it resolves. -/
theorem step_granted (p : Pool) {f : Family} {r : VersionRequest} {v : Version}
    (hf : f.isLineage = true) (hr : r.resolve f = .ok v) :
    ∃ a, (p.step Catalog.shipped (.requestFamily f r)).2 = .granted a := by
  obtain ⟨q, hbuild⟩ := Platform.build_shipped hf v
  have htarget := target?_requestFamily hr
  have hmove := step_move Catalog.shipped p (.requestFamily f r)
  generalize p.step Catalog.shipped (.requestFamily f r) = next at hmove
  cases hmove with
  | found _ _ => exact ⟨_, rfl⟩
  | built _ _ _ => exact ⟨_, rfl⟩
  | refused hrefused =>
      obtain ⟨-, herror⟩ := hrefused f v htarget
      rw [hbuild] at herror
      cases herror
  | changed hs => cases hs
  | asked hnone _ =>
      rw [htarget] at hnone
      cases hnone

theorem Move.refused_eq {catalog : Catalog} {p : Pool} {s : Step} {next : Pool × Outcome}
    {e : Error} (h : Move catalog p s next) (he : next.2 = .refused e) : next.1 = p := by
  cases h with
  | found htarget hfind => rfl
  | built htarget hfind hbuild => cases he
  | refused hbuild => rfl
  | changed hs => cases he
  | asked htarget hgranted => rfl

theorem GrantedAt.entry {catalog : Catalog} {steps : List Step} {i : Nat} {s : Step} {a : Pooled}
    (h : GrantedAt catalog steps i s a) :
    ∃ f v, s.target? = some (f, v) ∧
      (after catalog steps (i + 1)).entries[a.slot]? = some (⟨f, v.id⟩, a.platform) := by
  rw [after_succ h.1]
  exact (step_move catalog _ s).granted_entry h.2

theorem Sound.slot_eq {p : Pool} (hp : p.Sound) {j k : Nat} {key : PlatformKey} {q r : Platform}
    (hj : p.entries[j]? = some (key, q)) (hk : p.entries[k]? = some (key, r)) : j = k := by
  have hlt : j < p.keys.length := by
    have := (List.getElem?_eq_some_iff.mp hj).1
    simpa [keys] using this
  refine (List.getElem?_inj hlt hp.nodup).mp ?_
  simp [keys, hj, hk]

theorem Move.mem_keys {catalog : Catalog} {p : Pool} {s : Step} {next : Pool × Outcome}
    (h : Move catalog p s next) (key : PlatformKey) :
    key ∈ next.1.keys ↔ key ∈ p.keys ∨
      ∃ a f v, next.2 = .granted a ∧ s.target? = some (f, v) ∧ key = ⟨f, v.id⟩ := by
  cases h with
  | @found f v found htarget hfind =>
      refine ⟨Or.inl, fun h => h.elim id ?_⟩
      rintro ⟨a, g, w, -, hgw, rfl⟩
      obtain ⟨rfl, rfl⟩ := Step.target?_inj htarget hgw
      exact List.mem_map.mpr ⟨_, List.mem_of_getElem? (find?_eq_some hfind), rfl⟩
  | @built f v q htarget hfind hbuild =>
      simp only [keys, List.map_append, List.map_cons, List.map_nil, List.mem_append,
        List.mem_singleton]
      refine or_congr Iff.rfl ⟨?_, ?_⟩
      · rintro rfl
        exact ⟨_, f, v, rfl, htarget, rfl⟩
      · rintro ⟨a, g, w, -, hgw, rfl⟩
        obtain ⟨rfl, rfl⟩ := Step.target?_inj htarget hgw
        rfl
  | refused hbuild => simp
  | changed hs => simp
  | asked htarget hgranted => simp [htarget]

/-- The keys of a pool are those of the requests that were granted so far. -/
theorem mem_keys_after (catalog : Catalog) (steps : List Step) (n : Nat) (key : PlatformKey) :
    key ∈ (after catalog steps n).keys ↔
      ∃ i s a f v, i < n ∧ GrantedAt catalog steps i s a ∧ s.target? = some (f, v) ∧
        key = ⟨f, v.id⟩ := by
  induction n with
  | zero => simp [after, run, empty, keys]
  | succ n ih =>
      cases hs : steps[n]? with
      | none =>
          rw [after_succ_of_end hs, ih]
          constructor
          · rintro ⟨i, s, a, f, v, hi, hrest⟩
            exact ⟨i, s, a, f, v, by omega, hrest⟩
          · rintro ⟨i, s, a, f, v, hi, hgranted, hrest⟩
            have hne : i ≠ n := by
              rintro rfl
              rw [hgranted.1] at hs
              cases hs
            exact ⟨i, s, a, f, v, by omega, hgranted, hrest⟩
      | some s =>
          rw [after_succ hs, (step_move catalog _ s).mem_keys, ih]
          constructor
          · rintro (⟨i, t, a, f, v, hi, hrest⟩ | ⟨a, f, v, ha, htarget, hkey⟩)
            · exact ⟨i, t, a, f, v, by omega, hrest⟩
            · exact ⟨n, s, a, f, v, by omega, ⟨hs, ha⟩, htarget, hkey⟩
          · rintro ⟨i, t, a, f, v, hi, hgranted, htarget, hkey⟩
            by_cases hin : i = n
            · subst hin
              obtain rfl := Option.some.inj (hs.symm.trans hgranted.1)
              exact Or.inr ⟨a, f, v, hgranted.2, htarget, hkey⟩
            · exact Or.inl ⟨i, t, a, f, v, by omega, hgranted, htarget, hkey⟩

/-- Two requests that were granted have the same slot exactly when they have
the same target, up to what the id of a version leaves open. -/
theorem GrantedAt.slot_eq_iff {catalog : Catalog} {steps : List Step} {i j : Nat} {s t : Step}
    {a b : Pooled} (ha : GrantedAt catalog steps i s a) (hb : GrantedAt catalog steps j t b) :
    ∃ f v g w, s.target? = some (f, v) ∧ t.target? = some (g, w) ∧
      (a.slot = b.slot ↔ f = g ∧ v.id = w.id) := by
  obtain ⟨f, v, hs, hslot⟩ := ha.entry
  obtain ⟨g, w, ht, hslot'⟩ := hb.entry
  refine ⟨f, v, g, w, hs, ht, ?_⟩
  -- both slots are read off one pool, after the later of the two requests
  have hi : i + 1 ≤ max i j + 1 := by omega
  have hj : j + 1 ≤ max i j + 1 := by omega
  obtain ⟨x, hx⟩ := extends_after catalog steps hi _ _ _ hslot
  obtain ⟨y, hy⟩ := extends_after catalog steps hj _ _ _ hslot'
  constructor
  · intro heq
    rw [heq] at hx
    have hkey := congrArg Prod.fst (Option.some.inj (hx.symm.trans hy))
    exact ⟨congrArg PlatformKey.family hkey, congrArg PlatformKey.id hkey⟩
  · rintro ⟨rfl, hid⟩
    rw [hid] at hx
    exact (sound_after catalog steps _).slot_eq hx hy

/-! ## Tags -/

theorem requestTag_append (catalog : Catalog) (p : Pool) (family lead : String) {last : String}
    (h : '-' ∉ last.toList) :
    p.requestTag catalog family (lead ++ "-" ++ last) = p.request catalog family (.text last) := by
  have hlist : (lead ++ "-" ++ last).toList = lead.toList ++ '-' :: last.toList := by simp
  rw [requestTag, hlist, Text.afterLast_append h, String.ofList_toList]

theorem requestTag_of_not_mem (catalog : Catalog) (p : Pool) (family : String) {tag : String}
    (h : '-' ∉ tag.toList) :
    p.requestTag catalog family tag = p.request catalog family (.text tag) := by
  rw [requestTag, Text.afterLast_of_not_mem h, String.ofList_toList]

/-! ## The headline theorem -/

/-- **One platform per key.** At every point of every run each key stands once, for a
platform of its family and id. Two requests that were granted have the same slot exactly
when their families and ids are the same, there are as many platforms as such pairs, and
no slot is ever emptied or filled anew. A refusal changes nothing, and a tag asks for
what its last part asks for. -/
theorem run_one_platform_per_key (catalog : Catalog) (steps : List Step) :
    (∀ n, (after catalog steps n).keys.Nodup ∧
      ∀ key q, (key, q) ∈ (after catalog steps n).entries →
        q.family = key.family ∧ q.id = key.id ∧ q.version.id = key.id ∧
          (key.family = .mysql ∨ key.family = .mariaDb))
    ∧ (∀ i s a, GrantedAt catalog steps i s a → ∃ f v, s.target? = some (f, v) ∧
        (after catalog steps (i + 1)).entries[a.slot]? = some (⟨f, v.id⟩, a.platform))
    ∧ (∀ i j s t a b, GrantedAt catalog steps i s a → GrantedAt catalog steps j t b →
        ∃ f v g w, s.target? = some (f, v) ∧ t.target? = some (g, w) ∧
          (a.slot = b.slot ↔ f = g ∧ v.id = w.id))
    ∧ (∀ m n, m ≤ n → (after catalog steps m).Extends (after catalog steps n))
    ∧ (∀ n, (after catalog steps n).size =
        {key : PlatformKey | ∃ i s a f v, i < n ∧ GrantedAt catalog steps i s a ∧
          s.target? = some (f, v) ∧ key = ⟨f, v.id⟩}.ncard)
    ∧ (∀ i s e, steps[i]? = some s →
        ((after catalog steps i).step catalog s).2 = .refused e →
        after catalog steps (i + 1) = after catalog steps i)
    ∧ (∀ (p : Pool) (family lead last : String), '-' ∉ last.toList →
        p.requestTag catalog family (lead ++ "-" ++ last)
          = p.request catalog family (.text last))
    ∧ (∀ (p : Pool) (family tag : String), '-' ∉ tag.toList →
        p.requestTag catalog family tag = p.request catalog family (.text tag)) := by
  refine ⟨fun n => ⟨(sound_after catalog steps n).nodup, ?_⟩, fun i s a => GrantedAt.entry,
    fun i j s t a b => GrantedAt.slot_eq_iff, fun m n => extends_after catalog steps, ?_, ?_,
    fun p family lead last => requestTag_append catalog p family lead,
    fun p family tag => requestTag_of_not_mem catalog p family⟩
  · intro key q hmem
    obtain ⟨k, hk⟩ := List.mem_iff_getElem?.mp hmem
    obtain ⟨hfamily, hid, hlineage⟩ := (sound_after catalog steps n).entry hk
    exact ⟨hfamily, hid, hid, Family.isLineage_iff.mp hlineage⟩
  · intro n
    have hset : {key : PlatformKey | ∃ i s a f v, i < n ∧ GrantedAt catalog steps i s a ∧
        s.target? = some (f, v) ∧ key = ⟨f, v.id⟩}
          = ((after catalog steps n).keys.toFinset : Set PlatformKey) := by
      ext key
      rw [Finset.mem_coe, List.mem_toFinset, mem_keys_after]
      rfl
    rw [hset, Set.ncard_coe_finset, List.toFinset_card_of_nodup (sound_after catalog steps n).nodup]
    simp [size, keys]
  · intro i s e hs hrefused
    rw [after_succ hs]
    exact (step_move catalog _ s).refused_eq hrefused

/-- The series 8.0 by its text and by the number of its last patch: both requests
are granted, and in the same slot. -/
theorem run_one_platform_per_key_spellings :
    ∃ a b, GrantedAt Catalog.shipped
        [.requestFamily .mysql (.text "8.0"), .requestFamily .mysql (.number 80099)] 0
        (.requestFamily .mysql (.text "8.0")) a
      ∧ GrantedAt Catalog.shipped
        [.requestFamily .mysql (.text "8.0"), .requestFamily .mysql (.number 80099)] 1
        (.requestFamily .mysql (.number 80099)) b
      ∧ a.slot = b.slot := by
  have htext : VersionRequest.resolve (.text "8.0") .mysql = .ok ⟨8, some 0, none⟩ := rfl
  have hnumber : VersionRequest.resolve (.number 80099) .mysql = .ok ⟨8, some 0, some 99⟩ := rfl
  obtain ⟨a, ha⟩ := step_granted empty rfl htext
  obtain ⟨b, hb⟩ := step_granted (after Catalog.shipped
    [.requestFamily .mysql (.text "8.0"), .requestFamily .mysql (.number 80099)] 1) rfl hnumber
  refine ⟨a, b, ⟨rfl, ha⟩, ⟨rfl, hb⟩, ?_⟩
  obtain ⟨-, -, hslots, -⟩ := run_one_platform_per_key Catalog.shipped
    [.requestFamily .mysql (.text "8.0"), .requestFamily .mysql (.number 80099)]
  obtain ⟨f, v, g, w, hs, ht, hiff⟩ := hslots 0 1 _ _ a b ⟨rfl, ha⟩ ⟨rfl, hb⟩
  obtain ⟨rfl, rfl⟩ := Step.target?_inj (target?_requestFamily htext) hs
  obtain ⟨rfl, rfl⟩ := Step.target?_inj (target?_requestFamily hnumber) ht
  exact hiff.mpr ⟨rfl, rfl⟩

end Pool

end SqlDialect
