import SqlDialect.Proofs.Mode.Reading
import SqlDialect.Proofs.Pool.Transparency
import SqlDialect.Session.Basic

/-!
# The settings of a session

A session is checked in six steps (`Session.Check`). Each check says of the session
alone whether it fails and how (`Session.fault?`), and the session has settings
exactly when none does; otherwise the error is that of the first check that fails
(`Session.settings_of_fault`, `Session.settings_of_no_fault`). What the pool held before
decides nothing of this: with the catalog of the library the lookup depends on the
session only, and so does the default mode of the platform that it gives
(`Session.request_granted`).

The lookup is made before the other checks, so a session whose delimiter, character
set or mode is refused has put its platform into the pool all the same.
-/

namespace SqlDialect

/-! ## Pools that were made by a run -/

namespace Pool

def reached (steps : List Step) : Pool := run Catalog.shipped empty steps

theorem sound_reached (steps : List Step) : (reached steps).Sound := by
  have hsound := sound_after Catalog.shipped steps steps.length
  rw [after, List.take_length] at hsound
  exact hsound

theorem fetch_of_no_tables (steps : List Step) {f : Family} (hf : f.isLineage = false)
    (v : Version) :
    (reached steps).fetch Catalog.shipped f v
      = (reached steps, .error (.noTables f)) := by
  unfold fetch
  cases hfind : (reached steps).find? ⟨f, v.id⟩ with
  | some found =>
      obtain ⟨w, q, -, -, hbuild, -⟩ :=
        (traced_run Catalog.shipped steps).kept (find?_eq_some hfind)
      obtain ⟨-, -, -, hlineage⟩ := Platform.build_ok hbuild
      rw [hf] at hlineage
      cases hlineage
  | none => simp only [hfind, Platform.build_of_no_tables hf]

end Pool

namespace Session

/-! ## The checks -/

inductive Check where
  | family | version | tables | delimiter | charset | mode
deriving Repr, DecidableEq

/-- The checks in the order in which they are made. -/
def Check.all : List Check := [.family, .version, .tables, .delimiter, .charset, .mode]

/-- The version text of the session or, if it has none, that of the family. -/
def versionText (s : Session) (f : Family) : String := s.version.getD f.defaultSeries

/-- How the session fails a check, if it does. The version and the tables are those
of the family that is named; without one there is nothing to check of them. -/
def fault? (s : Session) : Check → Option Error
  | .family =>
    match Family.parse s.family with
    | .ok _ => none
    | .error _ => some (.unknownFamily (Text.trimmed s.family))
  | .version =>
    match Family.parse s.family with
    | .ok f =>
      match Version.parse (s.versionText f) with
      | .ok v => if f.supports v.series then none else some (.unknownVersion f v.text)
      | .error _ => some (.unknownVersion f (s.versionText f))
    | .error _ => none
  | .tables =>
    match Family.parse s.family with
    | .ok f => if f.isLineage then none else some (.noTables f)
    | .error _ => none
  | .delimiter =>
    match s.delimiter with
    | some d => if d.toList.all Text.isBlank then some .blankDelimiter else none
    | none => none
  | .charset =>
    match s.charset with
    | some name =>
      match Charset.parse name with
      | .ok _ => none
      | .error e => some e
    | none => none
  | .mode => s.mode.bind fun text => (Mode.firstWrong? (Mode.items text)).map .invalidMode

def firstFault? (s : Session) : Option Error := Check.all.findSome? s.fault?

/-- The session asks for this version of this family, one of the two that have
tables. -/
structure Requests (s : Session) (f : Family) (v : Version) : Prop where
  family : Family.parse s.family = .ok f
  tables : f = .mysql ∨ f = .mariaDb
  version : Version.parse (s.versionText f) = .ok v
  supported : f.supports v.series = true

/-- The session says nothing that has to be refused. -/
structure Valid (s : Session) : Prop where
  platform : ∃ f v, s.Requests f v
  delimiter : ∀ d ∈ s.delimiter, ∃ c ∈ d.toList, Text.isBlank c = false
  charset : ∀ name ∈ s.charset, ∃ c, Charset.parse name = .ok c
  mode : ∀ text ∈ s.mode, ∀ item ∈ Mode.items text,
    item = "DEFAULT" ∨ ∃ f, ModeFlag.named? item = some f

/-- The settings that the session describes on a platform: what it says, and for the
rest that with which every session starts. -/
def described (s : Session) (p : Platform) : Settings where
  platform := p
  delimiter := (s.delimiter.map Text.trimmed).getD (Settings.ofPlatform p).delimiter
  charset := (s.charset.map fun name => (Charset.parse name).toOption).getD
    (Settings.ofPlatform p).charset
  mode := (s.mode.map fun text => Mode.ofFlags (Mode.listed p.defaultMode text)).getD
    (Settings.ofPlatform p).mode
  quoteAllNames := s.quoteAllNames.getD (Settings.ofPlatform p).quoteAllNames
  canonicalizeTypes := s.canonicalizeTypes.getD (Settings.ofPlatform p).canonicalizeTypes
  verboseOutput := s.verboseOutput.getD (Settings.ofPlatform p).verboseOutput
  optionalEquals := s.optionalEquals.getD (Settings.ofPlatform p).optionalEquals

/-- Of the platform, the other settings depend on the default mode only. -/
theorem described_eq (s : Session) {p q : Platform} (hmode : p.defaultMode = q.defaultMode) :
    s.described q = { s.described p with platform := q } := by
  simp only [described, Settings.ofPlatform, hmode]

/-! ## What the checks decide -/

variable (s : Session)

/-- The error of the first check before the platform is there. -/
def lookupFault? : Option Error := [Check.family, .version, .tables].findSome? s.fault?

/-- The error of the first check after the platform is there. -/
def valueFault? : Option Error := [Check.delimiter, .charset, .mode].findSome? s.fault?

theorem firstFault?_eq : s.firstFault? = s.lookupFault?.or s.valueFault? := by
  rw [lookupFault?, valueFault?, ← List.findSome?_append]
  rfl

def unlessFault {α : Type} (fault : Option Error) (x : α) : Except Error α :=
  match fault with
  | some e => .error e
  | none => .ok x

theorem applyDelimiter_eq (x : Settings) : s.applyDelimiter x = unlessFault (s.fault? .delimiter)
    { x with delimiter := (s.delimiter.map Text.trimmed).getD x.delimiter } := by
  unfold applyDelimiter fault?
  cases s.delimiter with
  | none => rfl
  | some d =>
      have hblank : (Text.trim d.toList).isEmpty = d.toList.all Text.isBlank := by
        rw [Bool.eq_iff_iff, List.isEmpty_iff, Text.trim_eq_nil_iff, List.all_eq_true]
      simp only [hblank]
      split
      · rfl
      · rfl

theorem applyCharset_eq (x : Settings) : s.applyCharset x = unlessFault (s.fault? .charset)
    { x with charset :=
        (s.charset.map fun name => (Charset.parse name).toOption).getD x.charset } := by
  unfold applyCharset fault?
  cases s.charset with
  | none => rfl
  | some name =>
      cases hparse : Charset.parse name with
      | error e => simp only [hparse, unlessFault]
      | ok c => simp only [hparse, unlessFault, Option.map_some, Option.getD_some]; rfl

theorem applyMode_eq {x : Settings} (hmode : x.platform.defaultMode.Formed) :
    s.applyMode x = unlessFault (s.fault? .mode)
      { x with mode := (s.mode.map fun text =>
          Mode.ofFlags (Mode.listed x.platform.defaultMode text)).getD x.mode } := by
  unfold applyMode fault?
  cases s.mode with
  | none => rfl
  | some text =>
      simp only [Settings.edit, Settings.readMode, Mode.parseWith_some hmode, Option.bind_some]
      cases Mode.firstWrong? (Mode.items text) with
      | some e => rfl
      | none => rfl

/-- On a platform, the delimiter, the character set and the mode are checked in this
order, and a session that passes has the settings that it describes. -/
theorem settingsOn_eq {p : Platform} (hmode : p.defaultMode.Formed) :
    s.settingsOn p = unlessFault s.valueFault? (s.described p) := by
  have hmode' : ∀ x : Settings, x.platform = p → x.platform.defaultMode.Formed :=
    fun x hx => hx ▸ hmode
  unfold settingsOn
  rw [applyDelimiter_eq, valueFault?, List.findSome?_cons]
  cases s.fault? .delimiter with
  | some e => rfl
  | none =>
      simp only [unlessFault, applyCharset_eq, List.findSome?_cons]
      cases s.fault? .charset with
      | some e => rfl
      | none =>
          simp only
          rw [applyMode_eq s (hmode' _ rfl)]
          cases s.fault? .mode with
          | some e => rfl
          | none => rfl

/-! ## The lookup -/

theorem versionRequest_eq : s.versionRequest = s.version.elim .default .text := by
  unfold versionRequest
  cases s.version with
  | none => rfl
  | some text => rfl

theorem meaning_versionRequest (f : Family) :
    s.versionRequest.meaning f = VersionRequest.ofText f (s.versionText f) := by
  unfold versionRequest versionText
  cases s.version with
  | none => rfl
  | some text => rfl

theorem fault?_version_eq_none_iff {f : Family} (hf : Family.parse s.family = .ok f) :
    s.fault? .version = none
      ↔ ∃ v, Version.parse (s.versionText f) = .ok v ∧ f.supports v.series = true := by
  simp only [fault?, hf]
  cases Version.parse (s.versionText f) with
  | error key => simp
  | ok v => simp

theorem resolve_of_supported {f : Family} {v : Version}
    (hv : Version.parse (s.versionText f) = .ok v) (hsupported : f.supports v.series = true) :
    s.versionRequest.resolve f = .ok v := by
  rw [VersionRequest.resolve, meaning_versionRequest, VersionRequest.ofText, hv]
  simp only [hsupported, if_true]

theorem resolve_of_fault {f : Family} (hf : Family.parse s.family = .ok f) {e : Error}
    (h : s.fault? .version = some e) : s.versionRequest.resolve f = .error e := by
  rw [VersionRequest.resolve, meaning_versionRequest, VersionRequest.ofText]
  simp only [fault?, hf] at h
  cases hparse : Version.parse (s.versionText f) with
  | error key =>
      simp only [hparse, Option.some.injEq] at h
      simp only [h]
  | ok v =>
      simp only [hparse] at h ⊢
      split at h
      · cases h
      · rename_i hsupported
        simp only [if_neg hsupported, Option.some.inj h]

theorem Requests.resolve {s : Session} {f : Family} {v : Version} (h : s.Requests f v) :
    s.versionRequest.resolve f = .ok v :=
  s.resolve_of_supported h.version h.supported

theorem requests_unique {s : Session} {f g : Family} {v w : Version} (h : s.Requests f v)
    (h' : s.Requests g w) : f = g ∧ v = w := by
  obtain rfl : f = g := Except.ok.inj (h.family.symm.trans h'.family)
  exact ⟨rfl, Except.ok.inj (h.version.symm.trans h'.version)⟩

/-- The lookup goes through exactly when the session asks for a version that there is. -/
theorem lookupFault?_eq_none_iff : s.lookupFault? = none ↔ ∃ f v, s.Requests f v := by
  simp only [lookupFault?, List.findSome?_eq_none_iff, List.forall_mem_cons]
  constructor
  · rintro ⟨hfamily, hversion, htables, -⟩
    cases hf : Family.parse s.family with
    | error key => simp [fault?, hf] at hfamily
    | ok f =>
        obtain ⟨v, hv, hsupported⟩ := (s.fault?_version_eq_none_iff hf).mp hversion
        simp only [fault?, hf, ite_eq_left_iff, reduceCtorEq, imp_false, not_not] at htables
        exact ⟨f, v, hf, Family.isLineage_iff.mp htables, hv, hsupported⟩
  · rintro ⟨f, v, hf, htables, hv, hsupported⟩
    have hversion := (s.fault?_version_eq_none_iff hf).mpr ⟨v, hv, hsupported⟩
    have htables' : s.fault? .tables = none := by
      simp only [fault?, hf, Family.isLineage_iff.mpr htables, if_true]
    exact ⟨by simp only [fault?, hf], hversion, htables', by simp⟩

/-- A session that the first three checks refuse is refused by every pool that was made
by a run, and changes nothing. -/
theorem request_refused (steps : List Pool.Step) {e : Error} (h : s.lookupFault? = some e) :
    (Pool.reached steps).request Catalog.shipped s.family s.versionRequest
      = (Pool.reached steps, .error e) := by
  unfold Pool.request
  simp only [lookupFault?, List.findSome?_cons, List.findSome?_nil] at h
  cases hf : Family.parse s.family with
  | error key =>
      simp only [fault?, hf, Option.some.injEq] at h
      rw [h]
  | ok f =>
      have hfamily : s.fault? .family = none := by simp only [fault?, hf]
      simp only [hfamily] at h ⊢
      cases hversion : s.fault? .version with
      | some e' =>
          simp only [hversion, Option.some.injEq] at h
          rw [Pool.requestFamily, s.resolve_of_fault hf hversion, h]
      | none =>
          obtain ⟨v, hv, hsupported⟩ := (s.fault?_version_eq_none_iff hf).mp hversion
          rw [Pool.requestFamily_of_resolve (s.resolve_of_supported hv hsupported)]
          simp only [hversion] at h
          cases htables : f.isLineage with
          | true => simp [fault?, hf, htables] at h
          | false =>
              simp only [fault?, hf, htables, Bool.false_eq_true, if_false, Option.some.injEq] at h
              rw [Pool.fetch_of_no_tables steps htables, h]

/-- A session that passes the first three checks is granted a platform by every pool
that was made by a run, and its default mode is that of the platform that is built for
the version, whoever asked for it first. -/
theorem request_granted (steps : List Pool.Step) {s : Session} {f : Family} {v : Version}
    (h : s.Requests f v) :
    ∃ q a, Platform.build Catalog.shipped f v = .ok q
      ∧ ((Pool.reached steps).request Catalog.shipped s.family
          s.versionRequest).2 = .ok a
      ∧ a.platform.defaultMode = q.defaultMode := by
  obtain ⟨q, hbuild⟩ := Platform.build_shipped (Family.isLineage_iff.mpr h.tables) v
  obtain ⟨a, c, ha, hplatform⟩ := (Pool.traced_run Catalog.shipped steps).fetch hbuild
  refine ⟨q, a, hbuild, ?_, by rw [hplatform]⟩
  rw [Pool.request, h.family]
  simp only
  rw [Pool.requestFamily_of_resolve h.resolve]
  exact ha

/-! ## Settings on a platform of a pool -/

theorem settings_fst (catalog : Catalog) (pool : Pool) :
    (s.settings catalog pool).1 = (pool.request catalog s.family s.versionRequest).1 := by
  unfold settings
  split
  · rename_i pool' e hrequest
    rw [hrequest]
  · rename_i pool' found hrequest
    rw [hrequest]

theorem settings_snd_of_request {catalog : Catalog} {pool : Pool} {a : Pooled}
    (h : (pool.request catalog s.family s.versionRequest).2 = .ok a) :
    (s.settings catalog pool).2 = s.settingsOn a.platform := by
  unfold settings
  split
  · rename_i pool' e hrequest
    rw [hrequest] at h
    cases h
  · rename_i pool' found hrequest
    rw [hrequest] at h
    cases h
    rfl

/-- After the lookup, the settings are those that the session describes, unless one of
the other checks fails. -/
theorem settings_of_requests (steps : List Pool.Step) {f : Family} {v : Version}
    (h : s.Requests f v) :
    ∃ q a, Platform.build Catalog.shipped f v = .ok q
      ∧ ((Pool.reached steps).request Catalog.shipped s.family
          s.versionRequest).2 = .ok a
      ∧ a.platform.defaultMode = q.defaultMode
      ∧ (s.settings Catalog.shipped (Pool.reached steps)).2
          = unlessFault s.valueFault? (s.described a.platform) := by
  obtain ⟨q, a, hbuild, ha, hmode⟩ := request_granted steps h
  have hformed : a.platform.defaultMode.Formed := hmode ▸ Mode.defaultMode_formed hbuild
  exact ⟨q, a, hbuild, ha, hmode, by rw [settings_snd_of_request s ha, settingsOn_eq s hformed]⟩

theorem settings_of_fault (steps : List Pool.Step) {e : Error} (h : s.firstFault? = some e) :
    (s.settings Catalog.shipped (Pool.reached steps)).2 = .error e := by
  rw [firstFault?_eq] at h
  cases hlookup : s.lookupFault? with
  | some e' =>
      rw [hlookup, Option.some_or, Option.some.injEq] at h
      rw [settings, request_refused s steps hlookup, h]
  | none =>
      rw [hlookup, Option.none_or] at h
      obtain ⟨f, v, hrequests⟩ := s.lookupFault?_eq_none_iff.mp hlookup
      obtain ⟨q, a, -, -, -, hsettings⟩ := settings_of_requests s steps hrequests
      rw [hsettings, h]
      rfl

theorem settings_of_no_fault (steps : List Pool.Step) (h : s.firstFault? = none) :
    ∃ f v q a, s.Requests f v ∧ Platform.build Catalog.shipped f v = .ok q
      ∧ ((Pool.reached steps).request Catalog.shipped s.family
          s.versionRequest).2 = .ok a
      ∧ a.platform.defaultMode = q.defaultMode
      ∧ (s.settings Catalog.shipped (Pool.reached steps)).2
          = .ok (s.described a.platform) := by
  rw [firstFault?_eq, Option.or_eq_none_iff] at h
  obtain ⟨hlookup, hvalue⟩ := h
  obtain ⟨f, v, hrequests⟩ := s.lookupFault?_eq_none_iff.mp hlookup
  obtain ⟨q, a, hbuild, ha, hmode, hsettings⟩ := settings_of_requests s steps hrequests
  rw [hvalue] at hsettings
  exact ⟨f, v, q, a, hrequests, hbuild, ha, hmode, hsettings⟩

theorem firstFault?_of_settings (steps : List Pool.Step) {x : Settings}
    (hx : (s.settings Catalog.shipped (Pool.reached steps)).2 = .ok x) :
    s.firstFault? = none := by
  cases hfault : s.firstFault? with
  | none => rfl
  | some e =>
      rw [settings_of_fault s steps hfault] at hx
      cases hx

theorem settings_eq_ok (steps : List Pool.Step) {x : Settings}
    (hx : (s.settings Catalog.shipped (Pool.reached steps)).2 = .ok x) :
    ∃ f v q a, s.Requests f v ∧ Platform.build Catalog.shipped f v = .ok q
      ∧ ((Pool.reached steps).request Catalog.shipped s.family s.versionRequest).2 = .ok a
      ∧ a.platform.defaultMode = q.defaultMode ∧ x = s.described a.platform := by
  obtain ⟨f, v, q, a, h, hbuild, ha, hmode, hok⟩ :=
    settings_of_no_fault s steps (firstFault?_of_settings s steps hx)
  exact ⟨f, v, q, a, h, hbuild, ha, hmode, Except.ok.inj (hx.symm.trans hok)⟩

theorem settings_eq_error_iff (steps : List Pool.Step) (e : Error) :
    (s.settings Catalog.shipped (Pool.reached steps)).2 = .error e
      ↔ s.firstFault? = some e := by
  refine ⟨fun h => ?_, settings_of_fault s steps⟩
  cases hfault : s.firstFault? with
  | some e' =>
      rw [settings_of_fault s steps hfault] at h
      exact congrArg some (Except.error.inj h)
  | none =>
      obtain ⟨_, _, _, _, _, _, _, _, hok⟩ := settings_of_no_fault s steps hfault
      rw [hok] at h
      cases h

theorem fault?_delimiter_eq_none_iff :
    s.fault? .delimiter = none ↔ ∀ d ∈ s.delimiter, ∃ c ∈ d.toList, Text.isBlank c = false := by
  unfold fault?
  cases s.delimiter with
  | none => simp
  | some d => simp

theorem fault?_charset_eq_none_iff :
    s.fault? .charset = none ↔ ∀ name ∈ s.charset, ∃ c, Charset.parse name = .ok c := by
  unfold fault?
  cases s.charset with
  | none => simp
  | some name => cases hparse : Charset.parse name <;> simp [hparse]

theorem fault?_mode_eq_none_iff :
    s.fault? .mode = none ↔ ∀ text ∈ s.mode, ∀ item ∈ Mode.items text,
      item = "DEFAULT" ∨ ∃ f, ModeFlag.named? item = some f := by
  unfold fault?
  cases s.mode with
  | none => simp
  | some text =>
      simp [Mode.firstWrong?, Mode.isItem, ← Option.ne_none_iff_exists', or_iff_not_imp_left]

theorem firstFault?_eq_none_iff : s.firstFault? = none ↔ s.Valid := by
  rw [firstFault?_eq, Option.or_eq_none_iff, lookupFault?_eq_none_iff]
  simp only [valueFault?, List.findSome?_eq_none_iff, List.forall_mem_cons, List.not_mem_nil,
    fault?_delimiter_eq_none_iff, fault?_charset_eq_none_iff, fault?_mode_eq_none_iff]
  constructor
  · rintro ⟨hplatform, hdelimiter, hcharset, hmode, -⟩
    exact ⟨hplatform, hdelimiter, hcharset, hmode⟩
  · intro h
    exact ⟨h.platform, h.delimiter, h.charset, h.mode, fun _ hmem => absurd hmem (by simp)⟩

/-! ## The pool afterwards -/

theorem target?_request {s : Session} {f : Family} {v : Version} (h : s.Requests f v) :
    (Pool.Step.request s.family s.versionRequest).target? = some (f, v) := by
  rw [Pool.Step.target?, Pool.targetNamed?, h.family]
  simp only
  rw [Pool.targetIn?, h.resolve]

theorem move_of_request {catalog : Catalog} {pool : Pool} {s : Session} {a : Pooled}
    (h : (pool.request catalog s.family s.versionRequest).2 = .ok a) :
    Pool.Move catalog pool (.request s.family s.versionRequest)
      ((s.settings catalog pool).1, .granted a) := by
  have hstep : pool.step catalog (.request s.family s.versionRequest)
      = ((s.settings catalog pool).1, .granted a) := by
    rw [Pool.step, Pool.asStep, h, settings_fst]
  exact hstep ▸ Pool.step_move catalog pool _

/-- Once the lookup has gone through the pool has its platform, whatever becomes of the
other checks. -/
theorem settings_pool_of_request {catalog : Catalog} {pool : Pool} (hpool : pool.Sound)
    {s : Session} {f : Family} {v : Version} (h : s.Requests f v) {a : Pooled}
    (ha : (pool.request catalog s.family s.versionRequest).2 = .ok a) :
    pool.entries <+: (s.settings catalog pool).1.entries
      ∧ (s.settings catalog pool).1.keys.Nodup
      ∧ (∀ key, key ∈ (s.settings catalog pool).1.keys ↔ key ∈ pool.keys ∨ key = ⟨f, v.id⟩)
      ∧ (s.settings catalog pool).1.entries[a.slot]? = some (⟨f, v.id⟩, a.platform) := by
  have hmove := move_of_request ha
  have htarget := target?_request h
  -- from here on only the move counts, not how the family and the version are read
  generalize (s.settings catalog pool).1 = pool' at hmove ⊢
  generalize Pool.Step.request s.family s.versionRequest = step at hmove htarget
  obtain ⟨g, w, hgw, hentry⟩ := hmove.granted_entry rfl
  obtain ⟨rfl, rfl⟩ := Pool.Step.target?_inj htarget hgw
  refine ⟨hmove.entries_kept htarget, (hmove.sound hpool).nodup,
    fun key => (hmove.mem_keys key).trans ?_, hentry⟩
  refine or_congr Iff.rfl ⟨?_, ?_⟩
  · rintro ⟨b, g, w, -, hgw, rfl⟩
    obtain ⟨rfl, rfl⟩ := Pool.Step.target?_inj htarget hgw
    rfl
  · rintro rfl
    exact ⟨a, f, v, rfl, htarget, rfl⟩

theorem request_ok_iff (steps : List Pool.Step) :
    (∃ a, ((Pool.reached steps).request Catalog.shipped s.family s.versionRequest).2 = .ok a)
      ↔ ∃ f v, s.Requests f v := by
  constructor
  · rintro ⟨a, ha⟩
    rw [← lookupFault?_eq_none_iff]
    cases hlookup : s.lookupFault? with
    | none => rfl
    | some e =>
        rw [request_refused s steps hlookup] at ha
        cases ha
  · rintro ⟨f, v, h⟩
    obtain ⟨q, a, -, ha, -⟩ := request_granted steps h
    exact ⟨a, ha⟩

/-- The pool keeps what it had and gains the platform of the lookup, if it goes through. -/
theorem settings_pool (steps : List Pool.Step) :
    (Pool.reached steps).entries <+: (s.settings Catalog.shipped (Pool.reached steps)).1.entries
      ∧ (s.settings Catalog.shipped (Pool.reached steps)).1.keys.Nodup
      ∧ ∀ key, key ∈ (s.settings Catalog.shipped (Pool.reached steps)).1.keys
          ↔ key ∈ (Pool.reached steps).keys ∨ ∃ f v, s.Requests f v ∧ key = ⟨f, v.id⟩ := by
  cases hlookup : s.lookupFault? with
  | some e =>
      have hnone : ¬ ∃ f v, s.Requests f v := by
        rw [← lookupFault?_eq_none_iff, hlookup]
        exact Option.some_ne_none e
      rw [settings_fst, request_refused s steps hlookup]
      refine ⟨List.prefix_rfl, (Pool.sound_reached steps).nodup, fun key => ⟨Or.inl, ?_⟩⟩
      rintro (hkey | ⟨f, v, h, -⟩)
      · exact hkey
      · exact absurd ⟨f, v, h⟩ hnone
  | none =>
      obtain ⟨f, v, h⟩ := s.lookupFault?_eq_none_iff.mp hlookup
      obtain ⟨q, a, -, ha, -⟩ := request_granted steps h
      obtain ⟨hkept, hnodup, hkeys, -⟩ := settings_pool_of_request (Pool.sound_reached steps) h ha
      refine ⟨hkept, hnodup, fun key => ?_⟩
      rw [hkeys key]
      refine or_congr Iff.rfl ⟨fun hkey => ⟨f, v, h, hkey⟩, ?_⟩
      rintro ⟨g, w, h', rfl⟩
      obtain ⟨rfl, rfl⟩ := requests_unique h h'
      rfl

/-! ## The headline theorem -/

/-- **What a session gets.** Whatever the pool was asked before, there are settings
exactly when the session is valid, and otherwise the error is that of the first check
that fails. The settings are those that the session describes, on the platform that it
asks for; but for that platform they are the same after every other run. The pool has
what it had, and also that platform if the lookup goes through, whatever fails later. -/
theorem settings_by_first_fault (steps : List Pool.Step) :
    ((∃ x, (s.settings Catalog.shipped (Pool.reached steps)).2 = .ok x) ↔ s.Valid)
    ∧ (∀ e, (s.settings Catalog.shipped (Pool.reached steps)).2 = .error e
        ↔ s.firstFault? = some e)
    ∧ (∀ x, (s.settings Catalog.shipped (Pool.reached steps)).2 = .ok x →
        x = s.described x.platform ∧
        ∃ f v, ∃ slot : Nat, s.Requests f v ∧
          (s.settings Catalog.shipped (Pool.reached steps)).1.entries[slot]?
            = some (⟨f, v.id⟩, x.platform))
    ∧ (∀ steps' x x', (s.settings Catalog.shipped (Pool.reached steps)).2 = .ok x →
        (s.settings Catalog.shipped (Pool.reached steps')).2 = .ok x' →
        x' = { x with platform := x'.platform })
    ∧ ((∃ a, ((Pool.reached steps).request Catalog.shipped s.family
          (s.version.elim .default .text)).2 = .ok a) ↔ ∃ f v, s.Requests f v)
    ∧ (Pool.reached steps).entries
        <+: (s.settings Catalog.shipped (Pool.reached steps)).1.entries
    ∧ (s.settings Catalog.shipped (Pool.reached steps)).1.keys.Nodup
    ∧ (∀ key, key ∈ (s.settings Catalog.shipped (Pool.reached steps)).1.keys
        ↔ key ∈ (Pool.reached steps).keys ∨ ∃ f v, s.Requests f v ∧ key = ⟨f, v.id⟩) := by
  refine ⟨?_, settings_eq_error_iff s steps, ?_, ?_, ?_, settings_pool s steps⟩
  · rw [← firstFault?_eq_none_iff]
    constructor
    · rintro ⟨x, hx⟩
      exact firstFault?_of_settings s steps hx
    · intro h
      obtain ⟨f, v, q, a, -, -, -, -, hok⟩ := settings_of_no_fault s steps h
      exact ⟨_, hok⟩
  · intro x hx
    obtain ⟨f, v, q, a, h, -, ha, -, rfl⟩ := settings_eq_ok s steps hx
    obtain ⟨-, -, -, hentry⟩ := settings_pool_of_request (Pool.sound_reached steps) h ha
    exact ⟨rfl, f, v, a.slot, h, hentry⟩
  · intro steps' x x' hx hx'
    obtain ⟨f, v, q, a, h, hbuild, -, hmode, rfl⟩ := settings_eq_ok s steps hx
    obtain ⟨g, w, r, b, h', hbuild', -, hmode', rfl⟩ := settings_eq_ok s steps' hx'
    obtain ⟨rfl, rfl⟩ := requests_unique h h'
    obtain rfl : q = r := Except.ok.inj (hbuild.symm.trans hbuild')
    rw [described_eq s (hmode.trans hmode'.symm)]
  · rw [← versionRequest_eq]
    exact request_ok_iff s steps

/-- After a request for MySQL 8.0, a session for MariaDB 10.6 with two faults: it is
refused for its character set, which is checked before the mode, and has put the version
that it names, not the default one, into the pool. Without the faults it has settings. -/
theorem settings_by_first_fault_two_faults :
    ∃ steps s t, steps = [Pool.Step.request "mysql" (.text "8.0")]
      ∧ s = { ofFamily "Maria" with
          version := some "10.6", charset := some "latin", mode := some "DEFAULT, no" }
      ∧ t = { s with delimiter := some " // ", charset := none, mode := some "DEFAULT" }
      ∧ (settings Catalog.shipped (Pool.reached steps) s).2 = .error (.unknownCharset "latin")
      ∧ (∀ key, key ∈ (settings Catalog.shipped (Pool.reached steps) s).1.keys
          ↔ key = ⟨.mysql, 80099⟩ ∨ key = ⟨.mariaDb, 100699⟩)
      ∧ ∃ x, ∃ slot : Nat,
          (settings Catalog.shipped (Pool.reached steps) t).2 = .ok x
          ∧ x.delimiter = "//"
          ∧ (settings Catalog.shipped (Pool.reached steps) t).1.entries[slot]?
              = some (⟨.mariaDb, 100699⟩, x.platform) := by
  have hasks : ∀ s : Session, s.family = "Maria" → s.version = some "10.6" →
      s.Requests .mariaDb ⟨10, some 6, none⟩ := by
    intro s hfamily hversion
    refine ⟨by rw [hfamily]; rfl, Or.inr rfl, ?_, by decide +kernel⟩
    rw [versionText, hversion]
    rfl
  have hbefore : (Pool.reached [.request "mysql" (.text "8.0")]).keys = [⟨.mysql, 80099⟩] := by
    decide +kernel
  obtain ⟨s, hs⟩ : ∃ s, s = { ofFamily "Maria" with
    version := some "10.6", charset := some "latin", mode := some "DEFAULT, no" } := ⟨_, rfl⟩
  obtain ⟨t, ht⟩ : ∃ t, t = { s with
    delimiter := some " // ", charset := none, mode := some "DEFAULT" } := ⟨_, rfl⟩
  obtain ⟨-, herror, -, -, -, -, -, hkeys⟩ :=
    settings_by_first_fault s [.request "mysql" (.text "8.0")]
  obtain ⟨hvalid, -, hdescribed, -⟩ :=
    settings_by_first_fault t [.request "mysql" (.text "8.0")]
  have hasks_s := hasks s (by rw [hs]; rfl) (by rw [hs])
  have hasks_t := hasks t (by rw [ht, hs]; rfl) (by rw [ht, hs])
  refine ⟨_, s, t, rfl, hs, ht, (herror _).mpr ?_, fun key => ?_, ?_⟩
  · rw [hs]
    decide +kernel
  · rw [hkeys, hbefore, List.mem_singleton]
    refine or_congr Iff.rfl ⟨?_, ?_⟩
    · rintro ⟨f, v, h, rfl⟩
      obtain ⟨rfl, rfl⟩ := requests_unique h hasks_s
      rfl
    · rintro rfl
      exact ⟨_, _, hasks_s, rfl⟩
  · have hfaultless : t.firstFault? = none := by
      rw [ht, hs]
      decide +kernel
    obtain ⟨x, hx⟩ := hvalid.mpr ((firstFault?_eq_none_iff t).mp hfaultless)
    obtain ⟨hsettings, f, v, slot, h, hentry⟩ := hdescribed x hx
    obtain ⟨rfl, rfl⟩ := requests_unique h hasks_t
    refine ⟨x, slot, hx, ?_, hentry⟩
    have htrimmed : Text.trimmed " // " = "//" := by decide +kernel
    rw [hsettings, described, ht]
    exact htrimmed

end Session

end SqlDialect
