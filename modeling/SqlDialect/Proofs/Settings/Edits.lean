import SqlDialect.Proofs.Mode.Lists
import SqlDialect.Settings

/-!
# Edits of settings

The settings of a session have seven fields that can be edited. What an edit writes is
said once (`Settings.Edit.write?`): a value to one field, or nothing if the edit fails.
The platform decides it alone, so it is the same wherever the edit stands in a run; in
particular `DEFAULT` in a mode text is never the mode that is set.

Writing to a field changes that field and no other (`Settings.get_set`,
`Settings.get_set_of_ne`), and settings are what their platform and their fields are
(`Settings.ext_get`). All else follows: a run leaves in each field what was written last
(`Settings.get_editAll_iff`), and edits of different fields can change places
(`Settings.editAll_rearranged`).
-/

namespace SqlDialect.Settings

/-! ## Fields -/

inductive Field where
  | delimiter | charset | mode | quoteAllNames | canonicalizeTypes | verboseOutput
  | optionalEquals
deriving Repr, DecidableEq

abbrev Field.Value : Field → Type
  | .delimiter => String
  | .charset => Option Charset
  | .mode => Mode
  | .quoteAllNames | .canonicalizeTypes | .verboseOutput | .optionalEquals => Bool

def get (s : Settings) : (f : Field) → f.Value
  | .delimiter => s.delimiter
  | .charset => s.charset
  | .mode => s.mode
  | .quoteAllNames => s.quoteAllNames
  | .canonicalizeTypes => s.canonicalizeTypes
  | .verboseOutput => s.verboseOutput
  | .optionalEquals => s.optionalEquals

/-- A field and what is written to it. -/
structure Write where
  field : Field
  value : field.Value

def set (s : Settings) : Write → Settings
  | ⟨.delimiter, d⟩ => { s with delimiter := d }
  | ⟨.charset, c⟩ => { s with charset := c }
  | ⟨.mode, m⟩ => { s with mode := m }
  | ⟨.quoteAllNames, b⟩ => { s with quoteAllNames := b }
  | ⟨.canonicalizeTypes, b⟩ => { s with canonicalizeTypes := b }
  | ⟨.verboseOutput, b⟩ => { s with verboseOutput := b }
  | ⟨.optionalEquals, b⟩ => { s with optionalEquals := b }

theorem get_set (s : Settings) (a : Write) : (s.set a).get a.field = a.value := by
  obtain ⟨f, v⟩ := a
  cases f <;> rfl

theorem get_set_of_ne (s : Settings) {a : Write} {f : Field} (h : a.field ≠ f) :
    (s.set a).get f = s.get f := by
  obtain ⟨g, v⟩ := a
  cases g <;> cases f <;> simp_all [set, get]

theorem platform_set (s : Settings) (a : Write) : (s.set a).platform = s.platform := by
  obtain ⟨f, v⟩ := a
  cases f <;> rfl

theorem ext_get {s t : Settings} (hplatform : s.platform = t.platform)
    (h : ∀ f, s.get f = t.get f) : s = t := by
  cases s with
  | mk =>
  cases t with
  | mk =>
  simp only [mk.injEq]
  exact ⟨hplatform, h .delimiter, h .charset, h .mode, h .quoteAllNames, h .canonicalizeTypes,
    h .verboseOutput, h .optionalEquals⟩

/-! ## What an edit writes -/

namespace Edit

def field : Edit → Field
  | .delimiter _ => .delimiter
  | .charset _ => .charset
  | .mode _ | .modeText _ => .mode
  | .quoteAllNames _ => .quoteAllNames
  | .canonicalizeTypes _ => .canonicalizeTypes
  | .verboseOutput _ => .verboseOutput
  | .optionalEquals _ => .optionalEquals

/-- What the edit writes on a platform, if it succeeds. -/
def write? (p : Platform) : Edit → Option Write
  | .delimiter d => some ⟨.delimiter, d⟩
  | .charset c => some ⟨.charset, c⟩
  | .mode m => some ⟨.mode, m⟩
  | .modeText text => (Mode.parseWith (some p.defaultMode) text).toOption.map fun m => ⟨.mode, m⟩
  | .quoteAllNames b => some ⟨.quoteAllNames, b⟩
  | .canonicalizeTypes b => some ⟨.canonicalizeTypes, b⟩
  | .verboseOutput b => some ⟨.verboseOutput, b⟩
  | .optionalEquals b => some ⟨.optionalEquals, b⟩

theorem field_of_write? {p : Platform} {e : Edit} {a : Write} (h : e.write? p = some a) :
    a.field = e.field := by
  cases e with
  | modeText text =>
      obtain ⟨m, -, rfl⟩ := Option.map_eq_some_iff.mp h
      rfl
  | _ =>
      obtain rfl := Option.some.inj h
      rfl

theorem write?_ne {p : Platform} {e : Edit} {f : Field} (h : e.field ≠ f) (v : f.Value) :
    e.write? p ≠ some ⟨f, v⟩ :=
  fun hwrite => h (field_of_write? hwrite).symm

end Edit

/-! ## One edit -/

theorem edit_modeText_ok {s : Settings} {text : String} {m : Mode}
    (h : Mode.parseWith (some s.platform.defaultMode) text = .ok m) :
    s.edit (.modeText text) = .ok { s with mode := m } := by
  rw [edit, readMode, h]

theorem edit_modeText_error {s : Settings} {text : String} {e : ModeError}
    (h : Mode.parseWith (some s.platform.defaultMode) text = .error e) :
    s.edit (.modeText text) = .error (.invalidMode e) := by
  rw [edit, readMode, h]

theorem edit_modeText_eq_ok_iff {s s' : Settings} {text : String} :
    s.edit (.modeText text) = .ok s' ↔ ∃ m,
      Mode.parseWith (some s.platform.defaultMode) text = .ok m ∧ { s with mode := m } = s' := by
  cases hparse : Mode.parseWith (some s.platform.defaultMode) text with
  | ok m => simp [edit_modeText_ok hparse]
  | error e => simp [edit_modeText_error hparse]

/-- An edit succeeds and writes to its field, or it is a mode text that cannot be read. -/
theorem edit_cases (s : Settings) (e : Edit) :
    (∃ v, e.write? s.platform = some ⟨e.field, v⟩ ∧ s.edit e = .ok (s.set ⟨e.field, v⟩))
    ∨ (∃ text m, e = .modeText text
      ∧ Mode.parseWith (some s.platform.defaultMode) text = .error m
      ∧ e.write? s.platform = none ∧ s.edit e = .error (.invalidMode m)) := by
  cases e with
  | modeText text =>
      cases hparse : Mode.parseWith (some s.platform.defaultMode) text with
      | ok m =>
          refine Or.inl ⟨m, ?_, edit_modeText_ok hparse⟩
          rw [Edit.write?, hparse]
          rfl
      | error m =>
          refine Or.inr ⟨text, m, rfl, hparse, ?_, edit_modeText_error hparse⟩
          rw [Edit.write?, hparse]
          rfl
  | _ => exact Or.inl ⟨_, rfl, rfl⟩

theorem tryEdit_of_ok {s s' : Settings} {e : Edit} (h : s.edit e = .ok s') : s.tryEdit e = s' := by
  rw [tryEdit, h]

theorem tryEdit_of_error {s : Settings} {e : Edit} {err : Error} (h : s.edit e = .error err) :
    s.tryEdit e = s := by
  rw [tryEdit, h]

/-- What a step of a run can come to. -/
theorem tryEdit_cases (s : Settings) (e : Edit) :
    (∃ a, e.write? s.platform = some a ∧ s.tryEdit e = s.set a)
    ∨ e.write? s.platform = none ∧ s.tryEdit e = s := by
  rcases edit_cases s e with ⟨v, hwrite, hok⟩ | ⟨text, m, -, -, hwrite, herror⟩
  · exact Or.inl ⟨_, hwrite, tryEdit_of_ok hok⟩
  · exact Or.inr ⟨hwrite, tryEdit_of_error herror⟩

theorem platform_tryEdit (s : Settings) (e : Edit) : (s.tryEdit e).platform = s.platform := by
  rcases tryEdit_cases s e with ⟨a, -, hset⟩ | ⟨-, hkept⟩
  · rw [hset, platform_set]
  · rw [hkept]

/-- After an edit a field holds what the edit wrote to it, or what it held before. -/
theorem get_tryEdit_iff {s : Settings} {e : Edit} {f : Field} {v : f.Value} :
    (s.tryEdit e).get f = v ↔ e.write? s.platform = some ⟨f, v⟩
      ∨ (∀ w, e.write? s.platform ≠ some ⟨f, w⟩) ∧ s.get f = v := by
  rcases tryEdit_cases s e with ⟨⟨g, u⟩, hwrite, hset⟩ | ⟨hwrite, hkept⟩
  · rw [hwrite, hset]
    by_cases hgf : g = f
    · subst hgf
      have hvalue : (s.set ⟨g, u⟩).get g = u := get_set s ⟨g, u⟩
      rw [hvalue]
      simp
    · rw [get_set_of_ne s hgf]
      simp [hgf]
  · rw [hwrite, hkept]
    simp

/-! ## Runs -/

/-- The last edit that writes to the field writes `v` to it. -/
def LastWritten (p : Platform) (es : List Edit) (f : Field) (v : f.Value) : Prop :=
  ∃ before e after, es = before ++ e :: after ∧ e.write? p = some ⟨f, v⟩
    ∧ ∀ e' ∈ after, ∀ w, e'.write? p ≠ some ⟨f, w⟩

/-- No edit writes to the field. -/
def Unwritten (p : Platform) (es : List Edit) (f : Field) : Prop :=
  ∀ e ∈ es, ∀ w, e.write? p ≠ some ⟨f, w⟩

theorem lastWritten_cons {p : Platform} {e : Edit} {es : List Edit} {f : Field} {v : f.Value} :
    LastWritten p (e :: es) f v ↔
      LastWritten p es f v ∨ e.write? p = some ⟨f, v⟩ ∧ Unwritten p es f := by
  constructor
  · rintro ⟨before, e', after, hsplit, hwrite, hafter⟩
    cases before with
    | nil =>
        cases hsplit
        exact Or.inr ⟨hwrite, hafter⟩
    | cons first before =>
        cases hsplit
        exact Or.inl ⟨before, e', after, rfl, hwrite, hafter⟩
  · rintro (⟨before, e', after, rfl, hwrite, hafter⟩ | ⟨hwrite, hrest⟩)
    · exact ⟨e :: before, e', after, rfl, hwrite, hafter⟩
    · exact ⟨[], e, es, rfl, hwrite, hrest⟩

theorem editAll_cons (s : Settings) (e : Edit) (es : List Edit) :
    s.editAll (e :: es) = (s.tryEdit e).editAll es := rfl

theorem editAll_append (s : Settings) (es es' : List Edit) :
    s.editAll (es ++ es') = (s.editAll es).editAll es' :=
  List.foldl_append

theorem platform_editAll (s : Settings) (es : List Edit) :
    (s.editAll es).platform = s.platform := by
  induction es generalizing s with
  | nil => rfl
  | cons e es ih => rw [editAll_cons, ih, platform_tryEdit]

/-- A run leaves in each field what was written to it last. -/
theorem get_editAll_iff {s : Settings} {es : List Edit} {f : Field} {v : f.Value} :
    (s.editAll es).get f = v ↔
      LastWritten s.platform es f v ∨ Unwritten s.platform es f ∧ s.get f = v := by
  induction es generalizing s with
  | nil => simp [editAll, LastWritten, Unwritten]
  | cons e es ih =>
      have hunwritten : Unwritten s.platform (e :: es) f ↔
          (∀ w, e.write? s.platform ≠ some ⟨f, w⟩) ∧ Unwritten s.platform es f :=
        List.forall_mem_cons
      rw [editAll_cons, ih, platform_tryEdit, get_tryEdit_iff, lastWritten_cons, hunwritten]
      constructor
      · intro h
        rcases h with hlast | ⟨hrest, hwrite | ⟨hnone, hv⟩⟩
        · exact Or.inl (Or.inl hlast)
        · exact Or.inl (Or.inr ⟨hwrite, hrest⟩)
        · exact Or.inr ⟨⟨hnone, hrest⟩, hv⟩
      · intro h
        rcases h with (hlast | ⟨hwrite, hrest⟩) | ⟨⟨hnone, hrest⟩, hv⟩
        · exact Or.inl hlast
        · exact Or.inr ⟨hrest, Or.inl hwrite⟩
        · exact Or.inr ⟨hrest, Or.inr ⟨hnone, hv⟩⟩

/-! ## The order of edits -/

theorem get_editAll_congr {s t : Settings} (hplatform : s.platform = t.platform) {f : Field}
    (hf : s.get f = t.get f) (es : List Edit) : (s.editAll es).get f = (t.editAll es).get f := by
  rw [get_editAll_iff, hplatform, hf, ← get_editAll_iff]

theorem get_tryEdit_of_ne (s : Settings) {e : Edit} {f : Field} (h : e.field ≠ f) :
    (s.tryEdit e).get f = s.get f := by
  rw [get_tryEdit_iff]
  exact Or.inr ⟨Edit.write?_ne h, rfl⟩

/-- For a field only its own edits count. -/
theorem get_editAll_filter (s : Settings) (es : List Edit) (f : Field) :
    (s.editAll (es.filter (·.field = f))).get f = (s.editAll es).get f := by
  induction es generalizing s with
  | nil => rfl
  | cons e es ih =>
      by_cases he : e.field = f
      · rw [List.filter_cons_of_pos (by simpa using he), editAll_cons, editAll_cons, ih]
      · rw [List.filter_cons_of_neg (by simpa using he), editAll_cons, ← ih (s.tryEdit e)]
        exact get_editAll_congr (platform_tryEdit s e).symm (get_tryEdit_of_ne s he).symm _

/-- Runs in which every field is edited alike, in whatever order the fields take turns,
come to the same settings. -/
theorem editAll_rearranged (s : Settings) {es es' : List Edit}
    (h : ∀ f, es.filter (·.field = f) = es'.filter (·.field = f)) :
    s.editAll es = s.editAll es' := by
  refine ext_get ?_ fun f => ?_
  · rw [platform_editAll, platform_editAll]
  · rw [← get_editAll_filter, h f, get_editAll_filter]

theorem editAll_swap (s : Settings) {e e' : Edit} (h : e.field ≠ e'.field)
    (before after : List Edit) :
    s.editAll (before ++ e :: e' :: after) = s.editAll (before ++ e' :: e :: after) := by
  refine editAll_rearranged s fun f => ?_
  rw [List.filter_append, List.filter_append]
  by_cases he : e.field = f
  · have he' : e'.field ≠ f := fun heq => h (he.trans heq.symm)
    simp [he, he']
  · simp [List.filter_cons, he]

theorem tryEdit_tryEdit (s : Settings) (e : Edit) : (s.tryEdit e).tryEdit e = s.tryEdit e := by
  refine ext_get (platform_tryEdit _ e) fun f => ?_
  rw [get_tryEdit_iff, platform_tryEdit]
  rcases get_tryEdit_iff.mp (rfl : (s.tryEdit e).get f = _) with hwrite | ⟨hnone, -⟩
  · exact Or.inl hwrite
  · exact Or.inr ⟨hnone, rfl⟩

/-! ## The headline theorem -/

def edited (p : Platform) (es : List Edit) : Settings := (ofPlatform p).editAll es

/-- **The last write to each field.** After every run of edits a field holds what the
last edit that succeeded in writing to it wrote, or what it held at the start. An edit
writes to its own field or, as a mode text that cannot be read, to none; `DEFAULT` in
such a text means the default mode of the platform, whatever mode is set. So edits of
different fields commute, and only the order within each field counts. -/
theorem edits_last_write (p : Platform) (es : List Edit) :
    (edited p es).platform = p
    ∧ (∀ f v, (edited p es).get f = v ↔
      LastWritten p es f v ∨ Unwritten p es f ∧ (ofPlatform p).get f = v)
    ∧ (∀ e : Edit,
      (∃ v, e.write? p = some ⟨e.field, v⟩
        ∧ (edited p es).edit e = .ok ((edited p es).set ⟨e.field, v⟩))
      ∨ (∃ text m, e = .modeText text ∧ Mode.parseWith (some p.defaultMode) text = .error m
        ∧ e.write? p = none ∧ (edited p es).edit e = .error (.invalidMode m)
        ∧ edited p (es ++ [e]) = edited p es))
    ∧ (∀ text names, Mode.Itemized text names →
      ((∃ s, (edited p es).edit (.modeText text) = .ok s) ↔ ∀ name ∈ names,
        Text.sameName name "DEFAULT" = true ∨ ∃ f : ModeFlag, Text.sameName name f.name = true)
      ∧ ∀ s, (edited p es).edit (.modeText text) = .ok s →
        s = { edited p es with mode := Mode.ofWord s.mode.value }
        ∧ ∀ i, s.mode.value.getLsbD i = true ↔ ∃ name ∈ names,
          Text.sameName name "DEFAULT" = true ∧ p.defaultMode.value.getLsbD i = true
          ∨ ∃ f : ModeFlag, Text.sameName name f.name = true ∧ f.bit.getLsbD i = true)
    ∧ (∀ text, edited p (es ++ [.modeText text, .modeText text])
      = edited p (es ++ [.modeText text]))
    ∧ (∀ (e e' : Edit) after, e.field ≠ e'.field →
      edited p (es ++ e :: e' :: after) = edited p (es ++ e' :: e :: after))
    ∧ (∀ es' : List Edit, (∀ f, es.filter (·.field = f) = es'.filter (·.field = f)) →
      edited p es = edited p es') := by
  have hplatform : (edited p es).platform = p := platform_editAll _ es
  refine ⟨hplatform, fun f v => get_editAll_iff, ?_, ?_, ?_,
    fun e e' after h => editAll_swap _ h es after, fun es' h => editAll_rearranged _ h⟩
  · intro e
    have hcases := edit_cases (edited p es) e
    rw [hplatform] at hcases
    refine hcases.imp_right ?_
    rintro ⟨text, m, he, hparse, hwrite, herror⟩
    refine ⟨text, m, he, hparse, hwrite, herror, ?_⟩
    rw [edited, editAll_append]
    exact tryEdit_of_error herror
  · intro text names hitems
    simp only [edit_modeText_eq_ok_iff, hplatform]
    refine ⟨?_, ?_⟩
    · rw [← hitems.exists_parseWith_iff]
      exact ⟨fun ⟨_, m, hm, _⟩ => ⟨m, hm⟩, fun ⟨m, hm⟩ => ⟨_, m, hm, rfl⟩⟩
    · rintro s ⟨m, hm, rfl⟩
      refine ⟨?_, hitems.getLsbD_parseWith hm⟩
      rw [← (Mode.parseWith_eq_ok_iff.mp hm).1]
  · intro text
    rw [edited, edited, editAll_append, editAll_append]
    exact tryEdit_tryEdit _ _

/-- The mode comes from the last text that can be read. In it `DEFAULT` is the default mode
and not the `ORACLE` that was set, and the delimiter could have been set before it. -/
theorem edits_last_write_refused_text :
    ∃ p es, p.defaultMode = Mode.ofFlags [.strictTransTables]
      ∧ es = [.mode (.ofFlag .oracle), .modeText "Default,ansi_quotes", .delimiter "$$",
        .modeText "bogus"]
      ∧ Mode.Itemized "Default,ansi_quotes" ["Default", "ansi_quotes"]
      ∧ (∃ s, (edited p es).edit (.modeText "Default,ansi_quotes") = .ok s)
      ∧ (edited p es).get .mode = Mode.ofFlags [.strictTransTables, .ansiQuotes]
      ∧ (edited p es).get .charset = none
      ∧ edited p es = edited p [.delimiter "$$", .mode (.ofFlag .oracle),
        .modeText "Default,ansi_quotes", .modeText "bogus"] := by
  let p : Platform := ⟨.mysql, ⟨5, some 7, none⟩, ⟨5, some 7, none⟩, .nothing, [],
    Mode.ofFlags [.strictTransTables]⟩
  have hitems : Mode.Itemized "Default,ansi_quotes" ["Default", "ansi_quotes"] := by
    refine ⟨["Default".toList, "ansi_quotes".toList], Text.cuts_iff.mpr (by decide +kernel), ?_⟩
    refine .item (Text.trims_iff.mpr (by decide +kernel)) (by decide) ?_
    exact .item (Text.trims_iff.mpr (by decide +kernel)) (by decide) .nil
  have hparse : Mode.parseWith (some p.defaultMode) "Default,ansi_quotes"
      = .ok (Mode.ofFlags [.strictTransTables, .ansiQuotes]) := rfl
  have hrefused : Edit.write? p (.modeText "bogus") = none := rfl
  obtain ⟨-, hfields, -, hread, -, -, hrearranged⟩ := edits_last_write p
    [.mode (.ofFlag .oracle), .modeText "Default,ansi_quotes", .delimiter "$$", .modeText "bogus"]
  refine ⟨p, _, rfl, rfl, hitems, (hread _ _ hitems).1.mpr ?_, (hfields _ _).mpr (Or.inl ?_),
    (hfields _ _).mpr (Or.inr ⟨?_, rfl⟩), hrearranged _ ?_⟩
  · rw [List.forall_mem_cons, List.forall_mem_singleton]
    exact ⟨Or.inl (by decide +kernel), Or.inr ⟨.ansiQuotes, by decide +kernel⟩⟩
  · refine ⟨[.mode (.ofFlag .oracle)], .modeText "Default,ansi_quotes", _, rfl, ?_, ?_⟩
    · rw [Edit.write?, hparse]
      rfl
    · rw [List.forall_mem_cons, List.forall_mem_singleton, hrefused]
      exact ⟨Edit.write?_ne (by decide), by simp⟩
  · have hothers : ∀ e ∈ [Edit.mode (.ofFlag .oracle), .modeText "Default,ansi_quotes",
        .delimiter "$$", .modeText "bogus"], e.field ≠ .charset := by
      decide
    exact fun e he => Edit.write?_ne (hothers e he)
  · intro f
    cases f <;> rfl

end SqlDialect.Settings
