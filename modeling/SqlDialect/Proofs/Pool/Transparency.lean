import SqlDialect.Proofs.Pool.Run
import SqlDialect.Proofs.Version.Series

/-!
# What earlier requests change

A pool keeps one platform for each family and id, and that platform says the
version for which it was *first* asked (`firstVersion?`). A later request with
the same id is given it, so two runs of the same request can be told apart by
the version alone: everything else is read from the tables by the id
(`Traced.fetch`).

What follows from the version are major, minor and the documented default
flags. They agree with those of a fresh pool exactly when the first request was
for the same major and minor (`request_after_run`). This is always so while
patches stay within two digits; a patch that does not can give a version the id
of another series (`request_after_foreign_series`).
-/

namespace SqlDialect

namespace Pool

/-! ## The first request for a key -/

def Step.versionFor? (s : Step) (key : PlatformKey) : Option Version :=
  match s.target? with
  | some (f, v) => if ⟨f, v.id⟩ = key then some v else none
  | none => none

theorem Step.versionFor?_eq_some {s : Step} {key : PlatformKey} {v : Version} :
    s.versionFor? key = some v ↔ s.target? = some (key.family, v) ∧ v.id = key.id := by
  unfold versionFor?
  split
  · rename_i f w hw
    rw [hw, Option.some.injEq, Prod.mk.injEq]
    constructor
    · intro h
      split at h
      · rename_i hkey
        cases h
        exact ⟨⟨hkey ▸ rfl, rfl⟩, hkey ▸ rfl⟩
      · cases h
    · rintro ⟨⟨rfl, rfl⟩, hid⟩
      rw [if_pos (by rw [hid])]
  · rename_i hnone
    simp [hnone]

/-- The version of the first request for a key. -/
def firstVersion? (steps : List Step) (key : PlatformKey) : Option Version :=
  steps.findSome? (·.versionFor? key)

theorem firstVersion?_concat (steps : List Step) (s : Step) (key : PlatformKey) :
    firstVersion? (steps ++ [s]) key = (firstVersion? steps key).or (s.versionFor? key) := by
  simp [firstVersion?, List.findSome?_append]

theorem firstVersion?_eq_some {steps : List Step} {key : PlatformKey} {w : Version}
    (h : firstVersion? steps key = some w) :
    ∃ s ∈ steps, s.target? = some (key.family, w) ∧ w.id = key.id := by
  obtain ⟨s, hs, hversion⟩ := List.exists_of_findSome?_eq_some h
  exact ⟨s, hs, Step.versionFor?_eq_some.mp hversion⟩

theorem firstVersion?_getD_id (steps : List Step) (f : Family) (v : Version) :
    ((firstVersion? steps ⟨f, v.id⟩).getD v).id = v.id := by
  cases hw : firstVersion? steps ⟨f, v.id⟩ with
  | none => rfl
  | some w =>
      obtain ⟨s, -, -, hid⟩ := firstVersion?_eq_some hw
      exact hid

/-! ## The history of a pool -/

/-- Every platform was built for the first request for its key, and a key that
was asked for in vain cannot be built. -/
structure Traced (catalog : Catalog) (steps : List Step) (p : Pool) : Prop where
  kept : ∀ {k : Nat} {key : PlatformKey} {q : Platform}, p.entries[k]? = some (key, q) →
    ∃ w q₀ c, firstVersion? steps key = some w ∧
      Platform.build catalog key.family w = .ok q₀ ∧ q = q₀.setCurrent c
  missing : ∀ {key : PlatformKey} {w : Version}, key ∉ p.keys →
    firstVersion? steps key = some w → ∃ e, Platform.build catalog key.family w = .error e

theorem traced_empty (catalog : Catalog) : Traced catalog [] empty :=
  ⟨fun h => by simp [empty] at h, fun _ h => by simp [firstVersion?] at h⟩

/-- A step that builds nothing adds nothing to the history, if what it asks for
is there or cannot be built. -/
theorem Traced.keep {catalog : Catalog} {steps : List Step} {p : Pool} {s : Step}
    (hp : Traced catalog steps p)
    (hs : ∀ {key w}, key ∉ p.keys → s.versionFor? key = some w →
      ∃ e, Platform.build catalog key.family w = .error e) :
    Traced catalog (steps ++ [s]) p := by
  refine ⟨fun {k key q} hk => ?_, fun {key w} hkey hw => ?_⟩
  · obtain ⟨w, q₀, c, hw, hbuild, hq⟩ := hp.kept hk
    exact ⟨w, q₀, c, by rw [firstVersion?_concat, hw, Option.some_or], hbuild, hq⟩
  · rw [firstVersion?_concat, Option.or_eq_some_iff] at hw
    rcases hw with hw | ⟨-, hw⟩
    · exact hp.missing hkey hw
    · exact hs hkey hw

theorem Traced.setCurrent {catalog : Catalog} {steps : List Step} {p : Pool}
    (hp : Traced catalog steps p) (slot : Nat) (v : Version) :
    Traced catalog steps (p.setCurrent slot v) := by
  refine ⟨fun {k key q} hk => ?_, fun {key w} hkey hw => hp.missing (by simpa using hkey) hw⟩
  rw [setCurrent_getElem?] at hk
  obtain ⟨⟨key', q'⟩, hq', heq⟩ := Option.map_eq_some_iff.mp hk
  obtain ⟨rfl, rfl⟩ := Prod.mk.injEq .. |>.mp heq
  obtain ⟨w, q₀, c, hw, hbuild, rfl⟩ := hp.kept hq'
  split
  · exact ⟨w, q₀, v, hw, hbuild, rfl⟩
  · exact ⟨w, q₀, c, hw, hbuild, rfl⟩

/-- A key that can be built and is not there was never asked for. -/
theorem Traced.firstVersion?_eq_none {catalog : Catalog} {steps : List Step} {p : Pool}
    (hp : Traced catalog steps p) {f : Family} {v : Version} {q : Platform}
    (hkey : ⟨f, v.id⟩ ∉ p.keys) (hbuild : Platform.build catalog f v = .ok q) :
    firstVersion? steps ⟨f, v.id⟩ = none := by
  cases hw : firstVersion? steps ⟨f, v.id⟩ with
  | none => rfl
  | some w =>
      obtain ⟨e, herror⟩ := hp.missing hkey hw
      obtain ⟨s, -, -, hid⟩ := firstVersion?_eq_some hw
      simp only at hid herror
      rw [Platform.build_of_id_eq hbuild hid.symm] at herror
      cases herror

theorem Traced.build {catalog : Catalog} {steps : List Step} {p : Pool} {s : Step} {f : Family}
    {v : Version} {q : Platform} (hp : Traced catalog steps p) (htarget : s.target? = some (f, v))
    (hkey : ⟨f, v.id⟩ ∉ p.keys) (hbuild : Platform.build catalog f v = .ok q) :
    Traced catalog (steps ++ [s]) ⟨p.entries ++ [(⟨f, v.id⟩, q)]⟩ := by
  refine ⟨fun {k key q'} hk => ?_, fun {key w} hmissing hw => ?_⟩
  · rcases Nat.lt_or_ge k p.entries.length with hlt | hge
    · rw [List.getElem?_append_left hlt] at hk
      obtain ⟨w, q₀, c, hw, hbuilt, hq⟩ := hp.kept hk
      exact ⟨w, q₀, c, by rw [firstVersion?_concat, hw, Option.some_or], hbuilt, hq⟩
    · rw [List.getElem?_append_right hge] at hk
      obtain ⟨rfl, rfl⟩ := Prod.mk.injEq .. |>.mp (List.mem_singleton.mp (List.mem_of_getElem? hk))
      have hfirst : s.versionFor? ⟨f, v.id⟩ = some v :=
        Step.versionFor?_eq_some.mpr ⟨htarget, rfl⟩
      refine ⟨v, _, _, ?_, hbuild, rfl⟩
      rw [firstVersion?_concat, hp.firstVersion?_eq_none hkey hbuild, Option.none_or, hfirst]
  · simp only [keys, List.map_append, List.mem_append, not_or, List.map_cons, List.map_nil,
      List.mem_singleton] at hmissing
    rw [firstVersion?_concat, Option.or_eq_some_iff] at hw
    rcases hw with hw | ⟨-, hw⟩
    · exact hp.missing hmissing.1 hw
    · obtain ⟨hsame, hid⟩ := Step.versionFor?_eq_some.mp hw
      obtain ⟨rfl, rfl⟩ := Step.target?_inj htarget hsame
      exact absurd (by rw [hid]) hmissing.2

theorem Move.traced {catalog : Catalog} {steps : List Step} {p : Pool} {s : Step}
    {next : Pool × Outcome} (h : Move catalog p s next) (hp : Traced catalog steps p) :
    Traced catalog (steps ++ [s]) next.1 := by
  cases h with
  | @found f v found htarget hfind =>
      refine hp.keep fun {key w} hkey hw => ?_
      obtain ⟨hsame, hid⟩ := Step.versionFor?_eq_some.mp hw
      obtain ⟨rfl, rfl⟩ := Step.target?_inj htarget hsame
      rw [hid, find?_eq_none_iff.mpr hkey] at hfind
      cases hfind
  | built htarget hfind hbuild => exact hp.build htarget (find?_eq_none_iff.mp hfind) hbuild
  | @refused e hbuild =>
      refine hp.keep fun {key w} hkey hw => ?_
      obtain ⟨htarget, -⟩ := Step.versionFor?_eq_some.mp hw
      exact ⟨e, (hbuild _ _ htarget).2⟩
  | @changed slot v hs =>
      refine (hp.keep fun {key w} hkey hw => ?_).setCurrent slot v
      subst hs
      cases hw
  | asked htarget hgranted =>
      refine hp.keep fun {key w} hkey hw => ?_
      rw [(Step.versionFor?_eq_some.mp hw).1] at htarget
      cases htarget

theorem traced_run (catalog : Catalog) (steps : List Step) :
    Traced catalog steps (run catalog empty steps) := by
  induction steps using List.reverseRecOn with
  | nil => exact traced_empty catalog
  | append_singleton steps s ih =>
      have hrun : run catalog empty (steps ++ [s])
          = ((run catalog empty steps).step catalog s).1 := by simp [run]
      rw [hrun]
      exact (step_move catalog _ s).traced ih

/-! ## Asking again -/

/-- What a pool gives differs from what is built anew in the version and in the
current version only, and the version is that of the first request. -/
theorem Traced.fetch {catalog : Catalog} {steps : List Step} {p : Pool}
    (hp : Traced catalog steps p) {f : Family} {v : Version} {q : Platform}
    (hbuild : Platform.build catalog f v = .ok q) :
    ∃ a c, (p.fetch catalog f v).2 = .ok a ∧
      a.platform = { q with
        version := (firstVersion? steps ⟨f, v.id⟩).getD v
        current := c } := by
  unfold Pool.fetch
  simp only
  split
  · rename_i found hfind
    obtain ⟨w, q₀, c, hw, hbuilt, hq⟩ := hp.kept (find?_eq_some hfind)
    obtain ⟨s, -, -, hid⟩ := firstVersion?_eq_some hw
    simp only at hid hbuilt
    rw [Platform.build_of_id_eq hbuild hid.symm] at hbuilt
    cases hbuilt
    exact ⟨found, c, rfl, by rw [hq, hw]; rfl⟩
  · rename_i hfind
    obtain ⟨-, hversion, -, -⟩ := Platform.build_ok hbuild
    rw [hp.firstVersion?_eq_none (find?_eq_none_iff.mp hfind) hbuild, hbuild]
    exact ⟨⟨p.size, q⟩, q.current, rfl, by rw [Option.getD_none, ← hversion]⟩

theorem requestFamily_of_resolve {catalog : Catalog} {p : Pool} {f : Family} {r : VersionRequest}
    {v : Version} (hr : r.resolve f = .ok v) :
    p.requestFamily catalog f r = p.fetch catalog f v := by
  rw [requestFamily, hr]

/-- In the lineage, and with the catalog of the library, every request that
resolves is granted: by an empty pool as a platform of the version itself, and
after any run as the same platform with the version of the first request. -/
theorem requestFamily_run (steps : List Step) {f : Family} {r : VersionRequest} {v : Version}
    (hf : f.isLineage = true) (hr : r.resolve f = .ok v) :
    ∃ a b c, ((run Catalog.shipped empty steps).requestFamily Catalog.shipped f r).2 = .ok a
      ∧ (empty.requestFamily Catalog.shipped f r).2 = .ok b
      ∧ b.platform.family = f ∧ b.platform.version = v
      ∧ a.platform = { b.platform with
          version := (firstVersion? steps ⟨f, v.id⟩).getD v
          current := c } := by
  obtain ⟨q, hbuild⟩ := Platform.build_shipped hf v
  obtain ⟨hfamily, hversion, -, -⟩ := Platform.build_ok hbuild
  obtain ⟨a, c, ha, hplatform⟩ := (traced_run Catalog.shipped steps).fetch hbuild
  have hfresh : (empty.fetch Catalog.shipped f v).2 = .ok ⟨0, q⟩ := by
    simp [fetch, find?, empty, size, hbuild]
  simp only [requestFamily_of_resolve hr]
  exact ⟨a, ⟨0, q⟩, c, ha, hfresh, hfamily, hversion, hplatform⟩

/-! ## Requests in range -/

/-- A version that is asked for as it is has a patch of at most two digits. -/
def Step.InRange : Step → Prop
  | .request _ version | .requestFamily _ version => version.InRange
  | .requestTag _ _ | .setCurrent _ _ | .query _ _ | .hasBuiltin _ _ _ | .size => True

theorem targetIn?_eq_some {f g : Family} {r : VersionRequest} {v : Version}
    (h : targetIn? f r = some (g, v)) : f = g ∧ r.resolve f = .ok v := by
  unfold targetIn? at h
  split at h
  · rename_i w hw
    cases h
    exact ⟨rfl, hw⟩
  · cases h

theorem targetNamed?_eq_some {family : String} {g : Family} {r : VersionRequest} {v : Version}
    (h : targetNamed? family r = some (g, v)) : r.resolve g = .ok v := by
  unfold targetNamed? at h
  split at h
  · obtain ⟨rfl, hr⟩ := targetIn?_eq_some h
    exact hr
  · cases h

theorem Step.InRange.resolve {s : Step} (hs : s.InRange) {f : Family} {v : Version}
    (h : s.target? = some (f, v)) : ∃ r : VersionRequest, r.InRange ∧ r.resolve f = .ok v := by
  cases s with
  | request family version =>
      rw [Step.target?] at h
      exact ⟨version, hs, targetNamed?_eq_some h⟩
  | requestFamily g version =>
      rw [Step.target?] at h
      obtain ⟨rfl, hr⟩ := targetIn?_eq_some h
      exact ⟨version, hs, hr⟩
  | requestTag family tag =>
      rw [Step.target?] at h
      exact ⟨.text _, trivial, targetNamed?_eq_some h⟩
  | setCurrent slot w => cases h
  | query slot question => cases h
  | hasBuiltin g id name => cases h
  | size => cases h

/-- After a run in range the first request for the key of a version in range was
for the same major and minor, and for the same patch once it is filled in. -/
theorem firstVersion?_inRange {steps : List Step} (hsteps : ∀ s ∈ steps, s.InRange) {f : Family}
    (hf : f.isLineage = true) {r : VersionRequest} (hrange : r.InRange) {v w : Version}
    (hr : r.resolve f = .ok v) (hw : firstVersion? steps ⟨f, v.id⟩ = some w) :
    w.major = v.major ∧ w.minor = v.minor
      ∧ w.patch.getD Version.lastComponent = v.patch.getD Version.lastComponent := by
  obtain ⟨s, hs, htarget, hid⟩ := firstVersion?_eq_some hw
  obtain ⟨r', hrange', hr'⟩ := (hsteps s hs).resolve htarget
  exact Family.eq_of_id_eq hf (VersionRequest.resolve_eq_ok hr').2
    (VersionRequest.resolve_eq_ok hr).2 (hrange'.patch_le hf hr') (hrange.patch_le hf hr) hid

/-! ## The headline theorem -/

/-- **What a history changes.** A request that resolves is granted after every run the
platform that an empty pool grants, but with the version of the first request for the
same id. Its major, minor and default flags are therefore those of the empty pool exactly
when that request had the same major and minor, as it always had unless a version was
asked for as it is with a patch of more than two digits. -/
theorem request_after_run (steps : List Step) (f : Family) (r : VersionRequest) (v : Version)
    (hf : f.isLineage = true) (hr : r.resolve f = .ok v) :
    ∃ a b c, ((run Catalog.shipped empty steps).requestFamily Catalog.shipped f r).2 = .ok a
      ∧ (empty.requestFamily Catalog.shipped f r).2 = .ok b
      ∧ b.platform.version = v
      ∧ a.platform = { b.platform with
          version := (firstVersion? steps ⟨f, v.id⟩).getD v
          current := c }
      ∧ ((a.platform.version.major = v.major ∧ a.platform.version.minor = v.minor
            ∧ a.platform.presetFlags = b.platform.presetFlags)
          ↔ ∀ w, firstVersion? steps ⟨f, v.id⟩ = some w → w.major = v.major ∧ w.minor = v.minor)
      ∧ ((∀ s ∈ steps, s.InRange) → r.InRange →
          a.platform.version.major = v.major ∧ a.platform.version.minor = v.minor
            ∧ a.platform.version.patch.getD Version.lastComponent
              = v.patch.getD Version.lastComponent
            ∧ a.platform.presetFlags = b.platform.presetFlags) := by
  obtain ⟨a, b, c, ha, hb, hfamily, hversion, hplatform⟩ := requestFamily_run steps hf hr
  have hfirst : a.platform.version = (firstVersion? steps ⟨f, v.id⟩).getD v := by rw [hplatform]
  have hpreset : a.platform.version.major = v.major → a.platform.version.minor = v.minor →
      a.platform.presetFlags = b.platform.presetFlags := by
    intro hmajor hminor
    have hsame : a.platform.family = b.platform.family := by rw [hplatform]
    have hid : a.platform.version.id = v.id := by rw [hfirst, firstVersion?_getD_id]
    rw [Platform.presetFlags, Platform.presetFlags, hsame, hversion]
    exact Platform.flagsFor_congr (Version.series_inj.mpr ⟨hmajor, hminor⟩) hid
  refine ⟨a, b, c, ha, hb, hversion, hplatform, ⟨?_, fun hagree => ?_⟩, fun hsteps hrange => ?_⟩
  · rintro ⟨hmajor, hminor, -⟩ w hw
    rw [hfirst, hw] at hmajor hminor
    exact ⟨hmajor, hminor⟩
  · have hseries : a.platform.version.major = v.major ∧ a.platform.version.minor = v.minor := by
      rw [hfirst]
      cases hw : firstVersion? steps ⟨f, v.id⟩ with
      | none => exact ⟨rfl, rfl⟩
      | some w => exact hagree w hw
    exact ⟨hseries.1, hseries.2, hpreset hseries.1 hseries.2⟩
  · have hspelling : a.platform.version.major = v.major ∧ a.platform.version.minor = v.minor
        ∧ a.platform.version.patch.getD Version.lastComponent
          = v.patch.getD Version.lastComponent := by
      rw [hfirst]
      cases hw : firstVersion? steps ⟨f, v.id⟩ with
      | none => exact ⟨rfl, rfl, rfl⟩
      | some w => exact firstVersion?_inRange hsteps hf hrange hr hw
    obtain ⟨hmajor, hminor, hpatch⟩ := hspelling
    exact ⟨hmajor, hminor, hpatch, hpreset hmajor hminor⟩

/-- An omitted patch is spelled `99` by the id: after 5.7.99 a request for 5.7
is given the platform of 5.7.99, and nothing but that spelling differs. -/
theorem request_after_run_spelled_patch :
    Family.isLineage .mysql = true
      ∧ VersionRequest.resolve (.text "5.7") .mysql = .ok ⟨5, some 7, none⟩
      ∧ ∃ a b, ((run Catalog.shipped empty
            [.requestFamily .mysql (.exact ⟨5, some 7, some 99⟩)]).requestFamily
              Catalog.shipped .mysql (.text "5.7")).2 = .ok a
        ∧ (empty.requestFamily Catalog.shipped .mysql (.text "5.7")).2 = .ok b
        ∧ a.platform.version = ⟨5, some 7, some 99⟩
        ∧ b.platform.version = ⟨5, some 7, none⟩
        ∧ a.platform.presetFlags = b.platform.presetFlags := by
  have hresolve : VersionRequest.resolve (.text "5.7") .mysql = .ok ⟨5, some 7, none⟩ := rfl
  have hfirst : firstVersion? [.requestFamily .mysql (.exact ⟨5, some 7, some 99⟩)]
      ⟨.mysql, Version.id ⟨5, some 7, none⟩⟩ = some ⟨5, some 7, some 99⟩ := by decide +kernel
  obtain ⟨a, b, c, ha, hb, hversion, hplatform, -, hrange⟩ := request_after_run
    [.requestFamily .mysql (.exact ⟨5, some 7, some 99⟩)] .mysql (.text "5.7") _ rfl hresolve
  rw [hfirst, Option.getD_some] at hplatform
  obtain ⟨-, -, -, hpreset⟩ := hrange
    (fun s hs => List.mem_singleton.mp hs ▸ Nat.le_refl 99) trivial
  exact ⟨rfl, hresolve, a, b, ha, hb, by rw [hplatform], hversion, hpreset⟩

/-- The patch `199` of the series 5.6 has the id of the series 5.7. A request
for 5.7 is then given the platform of 5.6 and its default flags. -/
theorem request_after_foreign_series :
    VersionRequest.resolve (.text "5.7") .mysql = .ok ⟨5, some 7, none⟩
      ∧ ∃ a b, ((run Catalog.shipped empty
            [.requestFamily .mysql (.exact ⟨5, some 6, some 199⟩)]).requestFamily
              Catalog.shipped .mysql (.text "5.7")).2 = .ok a
        ∧ (empty.requestFamily Catalog.shipped .mysql (.text "5.7")).2 = .ok b
        ∧ a.platform.version = ⟨5, some 6, some 199⟩
        ∧ b.platform.version = ⟨5, some 7, none⟩
        ∧ a.platform.presetFlags ≠ b.platform.presetFlags := by
  have hresolve : VersionRequest.resolve (.text "5.7") .mysql = .ok ⟨5, some 7, none⟩ := rfl
  have hfirst : firstVersion? [.requestFamily .mysql (.exact ⟨5, some 6, some 199⟩)]
      ⟨.mysql, Version.id ⟨5, some 7, none⟩⟩ = some ⟨5, some 6, some 199⟩ := by decide +kernel
  obtain ⟨a, b, c, ha, hb, hfamily, hversion, hplatform⟩ := requestFamily_run
    [.requestFamily .mysql (.exact ⟨5, some 6, some 199⟩)] rfl hresolve
  rw [hfirst, Option.getD_some] at hplatform
  have hflags : ModePreset.flagsFor .mysql ⟨5, some 6, some 199⟩
      ≠ ModePreset.flagsFor .mysql ⟨5, some 7, none⟩ := by decide +kernel
  refine ⟨hresolve, a, b, ha, hb, by rw [hplatform], hversion, ?_⟩
  rw [Platform.presetFlags, Platform.presetFlags, hplatform, hversion, hfamily]
  exact hflags

end Pool

end SqlDialect
