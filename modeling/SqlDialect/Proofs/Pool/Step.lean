import SqlDialect.Platform.Pool
import SqlDialect.Proofs.Platform.Build

/-!
# What a step of a pool can do

`Pool.step_move` says once, for every kind of step, what can become of the pool
and of the step: a request finds its platform, or builds it, or is refused;
a current version is changed; a question is answered. Everything that holds
along a run is derived from these five cases (`Pool.Move`) and never looks at
`Pool.step` again.

A request is known by its *target* (`Step.target?`), the family and the
supported version that it resolves to, however it was spelled.
-/

namespace SqlDialect

namespace Pool

/-! ## Lookup -/

/-- The keys of the platforms that were built, by slot. -/
def keys (p : Pool) : List PlatformKey := p.entries.map (·.1)

theorem find?_eq_some {p : Pool} {key : PlatformKey} {found : Pooled}
    (h : p.find? key = some found) : p.entries[found.slot]? = some (key, found.platform) := by
  obtain ⟨⟨⟨key', q⟩, slot⟩, hfind, rfl⟩ := Option.map_eq_some_iff.mp h
  have hkey : key' = key := by simpa using List.find?_some hfind
  have hmem := List.mem_zipIdx_iff_getElem?.mp (List.mem_of_find?_eq_some hfind)
  rw [← hkey]
  exact hmem

theorem find?_eq_none_iff {p : Pool} {key : PlatformKey} : p.find? key = none ↔ key ∉ p.keys := by
  simp only [find?, keys, Option.map_eq_none_iff, List.find?_eq_none, List.mem_map]
  constructor
  · rintro h ⟨⟨key', q⟩, hmem, rfl⟩
    obtain ⟨slot, hslot⟩ := List.mem_iff_getElem?.mp hmem
    exact h ((key', q), slot) (List.mem_zipIdx_iff_getElem?.mpr hslot) (by simp)
  · rintro h ⟨⟨key', q⟩, slot⟩ hmem heq
    have hslot := List.mem_zipIdx_iff_getElem?.mp hmem
    exact h ⟨(key', q), List.mem_of_getElem? hslot, by simpa using heq⟩

/-! ## Targets -/

/-- The family and the supported version that a request for a version of `f`
resolves to. -/
def targetIn? (f : Family) (version : VersionRequest) : Option (Family × Version) :=
  match version.resolve f with
  | .ok v => some (f, v)
  | .error _ => none

def targetNamed? (family : String) (version : VersionRequest) : Option (Family × Version) :=
  match Family.parse family with
  | .ok f => targetIn? f version
  | .error _ => none

/-- The family and the supported version that a step asks for, if it is a
request that resolves. -/
def Step.target? : Step → Option (Family × Version)
  | .request family version => targetNamed? family version
  | .requestFamily f version => targetIn? f version
  | .requestTag family tag =>
    targetNamed? family (.text (String.ofList (Text.afterLast '-' tag.toList)))
  | .setCurrent _ _ | .query _ _ | .hasBuiltin _ _ _ | .size => none

theorem Step.target?_inj {s : Step} {f g : Family} {v w : Version}
    (h : s.target? = some (f, v)) (h' : s.target? = some (g, w)) : f = g ∧ v = w := by
  rw [h, Option.some.injEq, Prod.mk.injEq] at h'
  exact h'

/-! ## Moves -/

/-- What a step makes of a pool, and what comes of it. -/
inductive Move (catalog : Catalog) (p : Pool) (s : Step) : Pool × Outcome → Prop where
  /-- The platform was there. -/
  | found {f : Family} {v : Version} {found : Pooled} (htarget : s.target? = some (f, v))
      (hfind : p.find? ⟨f, v.id⟩ = some found) : Move catalog p s (p, .granted found)
  /-- The platform was built and has the next slot. -/
  | built {f : Family} {v : Version} {q : Platform} (htarget : s.target? = some (f, v))
      (hfind : p.find? ⟨f, v.id⟩ = none) (hbuild : Platform.build catalog f v = .ok q) :
      Move catalog p s (⟨p.entries ++ [(⟨f, v.id⟩, q)]⟩, .granted ⟨p.size, q⟩)
  /-- The request does not resolve, or its platform cannot be built. -/
  | refused {e : Error}
      (hbuild : ∀ f v, s.target? = some (f, v) →
        p.find? ⟨f, v.id⟩ = none ∧ Platform.build catalog f v = .error e) :
      Move catalog p s (p, .refused e)
  /-- A current version was changed. -/
  | changed {slot : Nat} {v : Version} (hs : s = .setCurrent slot v) :
      Move catalog p s (p.setCurrent slot v, .done)
  /-- A question was answered. -/
  | asked {r : Outcome} (htarget : s.target? = none) (hgranted : ∀ a, r ≠ .granted a) :
      Move catalog p s (p, r)

theorem fetch_move {catalog : Catalog} {p : Pool} {s : Step} {f : Family} {v : Version}
    (htarget : s.target? = some (f, v)) :
    Move catalog p s (asStep (p.fetch catalog f v)) := by
  unfold fetch
  simp only
  split
  · rename_i found hfind
    exact .found htarget hfind
  · rename_i hfind
    split
    · rename_i e hbuild
      refine .refused fun g w hgw => ?_
      obtain ⟨rfl, rfl⟩ := Step.target?_inj htarget hgw
      exact ⟨hfind, hbuild⟩
    · rename_i q hbuild
      exact .built htarget hfind hbuild

theorem requestFamily_move {catalog : Catalog} {p : Pool} {s : Step} {f : Family}
    {version : VersionRequest} (htarget : s.target? = targetIn? f version) :
    Move catalog p s (asStep (p.requestFamily catalog f version)) := by
  unfold requestFamily
  unfold targetIn? at htarget
  split
  · rename_i e he
    rw [he] at htarget
    exact .refused fun g w hgw => by simp [htarget] at hgw
  · rename_i v hv
    rw [hv] at htarget
    exact fetch_move htarget

theorem request_move {catalog : Catalog} {p : Pool} {s : Step} {family : String}
    {version : VersionRequest} (htarget : s.target? = targetNamed? family version) :
    Move catalog p s (asStep (p.request catalog family version)) := by
  unfold request
  unfold targetNamed? at htarget
  split
  · rename_i e he
    rw [he] at htarget
    exact .refused fun g w hgw => by simp [htarget] at hgw
  · rename_i f hf
    rw [hf] at htarget
    exact requestFamily_move htarget

/-- Every step is one of the five moves. -/
theorem step_move (catalog : Catalog) (p : Pool) (s : Step) :
    Move catalog p s (p.step catalog s) := by
  cases s with
  | request family version =>
      rw [step]
      exact request_move rfl
  | requestFamily f version =>
      rw [step]
      exact requestFamily_move rfl
  | requestTag family tag =>
      rw [step, requestTag]
      exact request_move rfl
  | setCurrent slot v => exact .changed rfl
  | query slot question => exact .asked rfl (by simp)
  | hasBuiltin f id name => exact .asked rfl (by simp)
  | size => exact .asked rfl (by simp)

end Pool

end SqlDialect
