import SqlDialect.Charset.Conversion
import SqlDialect.Proofs.Charset.Names

/-!
# Names of conversions

Which names `Charset.validateName` accepts is said here by the parts of the text alone
(`Charset.Spells`): a character set, or two parts around the first underscore. The relation
leaves open which texts count as character sets, because two answers matter:

- by the grammar a part is a name of a character set as it stands;
- `validateName` asks for the part as it asks for any character set, and so it also accepts
  blanks around it (`validateName_eq_ok_iff`).

The blanks at the ends of the whole text are dropped before, so the two differ exactly in
blanks beside the underscore, and these stay in the accepted name (`spells_names_iff`).

An accepted name is the text in small letters, possibly with an `r` at its end
(`Spells.eq_or_append`). From this it follows that it is accepted as it stands.
-/

namespace SqlDialect.Charset

/-! ## The grammar -/

/-- The text in small letters `t` spells the name `s`, where `known` says what counts as
a character set. -/
inductive Spells (known : String → Prop) : String → String → Prop
  | charset {t : String} : '_' ∉ t.toList → known t → Spells known t t
  | conversion {first second : String} : '_' ∉ first.toList → known first →
      known (secondPart second) ∨ secondPart second ∈ legacyParts →
      Spells known (first ++ "_" ++ second) (first ++ "_" ++ secondPart second)

theorem secondPart_cases (s : String) :
    secondPart s = s ∨ s = "koi8" ∧ secondPart s = s ++ "r" := by
  unfold secondPart
  split
  · rename_i heq
    exact Or.inr ⟨heq, by rw [heq]; rfl⟩
  · exact Or.inl rfl

theorem secondPart_secondPart (s : String) : secondPart (secondPart s) = secondPart s := by
  rcases secondPart_cases s with hsame | ⟨rfl, -⟩
  · rw [hsame, hsame]
  · decide

/-- The second part is kept in its full name, and an `r` at most is added. -/
theorem mem_secondPart {s : String} {c : Char} :
    (c ∈ s.toList → c ∈ (secondPart s).toList)
    ∧ (c ∈ (secondPart s).toList → c ∈ s.toList ∨ c = 'r') := by
  rcases secondPart_cases s with hsame | ⟨-, hadded⟩
  · rw [hsame]
    exact ⟨fun hc => hc, Or.inl⟩
  · rw [hadded]
    simp only [String.toList_append, List.mem_append]
    exact ⟨Or.inl, fun hc => hc.imp_right (by simp)⟩

variable {known known' : String → Prop} {t s : String}

/-- A name is the text that spells it, or the text with the `r` of `koi8r` added. -/
theorem Spells.eq_or_append (h : Spells known t s) : s = t ∨ s = t ++ "r" ∧ '_' ∈ t.toList := by
  cases h with
  | charset => exact Or.inl rfl
  | @conversion first second =>
      rcases secondPart_cases second with hsame | ⟨-, hadded⟩
      · exact Or.inl (by rw [hsame])
      · refine Or.inr ⟨?_, by simp⟩
        rw [hadded]
        exact String.append_assoc.symm

/-- What holds of `r` holds of all characters of the name if it does of those of the text. -/
theorem Spells.forall_mem_iff {P : Char → Prop} (hr : P 'r') (h : Spells known t s) :
    (∀ c ∈ s.toList, P c) ↔ ∀ c ∈ t.toList, P c := by
  rcases h.eq_or_append with rfl | ⟨rfl, -⟩
  · exact Iff.rfl
  · simp [or_imp, forall_and, hr]

/-- The parts of a text are made of its characters and of the `r` of `koi8r`. What counts as
a character set matters for such texts only. -/
theorem Spells.imp {P : Char → Prop} (hr : P 'r') (ht : ∀ c ∈ t.toList, P c)
    (himp : ∀ w : String, (∀ c ∈ w.toList, P c) → known w → known' w) (h : Spells known t s) :
    Spells known' t s := by
  cases h with
  | charset hno hknown => exact .charset hno (himp t ht hknown)
  | @conversion first second hno hfirst hsecond =>
      simp only [String.toList_append, List.mem_append] at ht
      have hsecondChars : ∀ c ∈ (secondPart second).toList, P c := by
        intro c hc
        rcases mem_secondPart.2 hc with hc | rfl
        · exact ht c (Or.inr hc)
        · exact hr
      refine .conversion hno (himp first (fun c hc => ht c (Or.inl (Or.inl hc))) hfirst) ?_
      rcases hsecond with hcharset | hlegacy
      · exact Or.inl (himp _ hsecondChars hcharset)
      · exact Or.inr hlegacy

theorem Spells.self (h : Spells known t s) : Spells known s s := by
  cases h with
  | charset hno hknown => exact .charset hno hknown
  | @conversion first second hno hfirst hsecond =>
      rw [← secondPart_secondPart second] at hsecond
      have hself : Spells known (first ++ "_" ++ secondPart second)
          (first ++ "_" ++ secondPart (secondPart second)) := .conversion hno hfirst hsecond
      rwa [secondPart_secondPart] at hself

/-! ## What is accepted -/

theorem validateName_of_no_underscore {raw : String} (h : '_' ∉ (key raw).toList) :
    validateName raw = if isKnown (key raw) then .ok (key raw)
      else .error (.unknownCharset (Text.trimmed raw)) := by
  have hcut : Text.cutAt '_' (Text.lower (Text.trimmed raw)).toList = none :=
    Text.cutAt_eq_none_iff.mpr h
  simp only [validateName, hcut]
  rfl

theorem validateName_of_underscore {raw first second : String}
    (hkey : key raw = first ++ "_" ++ second) (h : '_' ∉ first.toList) :
    validateName raw = if isKnown first && isSecondPart (secondPart second)
      then .ok (first ++ "_" ++ secondPart second)
      else .error (.unknownCharset (Text.trimmed raw)) := by
  have hcut : Text.cutAt '_' (Text.lower (Text.trimmed raw)).toList
      = some (first.toList, second.toList) := by
    refine Text.cutAt_eq_some_iff.mpr ⟨?_, h⟩
    rw [← key, hkey]
    simp
  simp only [validateName, hcut, String.ofList_toList]

theorem exists_parts {t : String} (h : '_' ∈ t.toList) :
    ∃ first second, t = first ++ "_" ++ second ∧ '_' ∉ first.toList := by
  cases hcut : Text.cutAt '_' t.toList with
  | none => exact absurd h (Text.cutAt_eq_none_iff.mp hcut)
  | some parts =>
      obtain ⟨l, r⟩ := parts
      obtain ⟨hjoined, hno⟩ := Text.cutAt_eq_some_iff.mp hcut
      refine ⟨String.ofList l, String.ofList r, ?_, by rwa [String.toList_ofList]⟩
      rw [← String.toList_inj, hjoined]
      simp

theorem validateName_eq_ok_iff_isKnown {raw s : String} :
    validateName raw = .ok s ↔ Spells (isKnown · = true) (key raw) s := by
  constructor
  · intro h
    by_cases hunder : '_' ∈ (key raw).toList
    · obtain ⟨first, second, hkey, hno⟩ := exists_parts hunder
      rw [validateName_of_underscore hkey hno] at h
      split at h
      · rename_i hparts
        cases h
        simp only [isSecondPart, Bool.and_eq_true, Bool.or_eq_true, List.contains_iff_mem] at hparts
        rw [hkey]
        exact .conversion hno hparts.1 hparts.2
      · cases h
    · rw [validateName_of_no_underscore hunder] at h
      split at h
      · rename_i hknown
        obtain rfl : key raw = s := Except.ok.inj h
        exact .charset hunder hknown
      · cases h
  · intro h
    generalize hkey : key raw = t at h
    cases h with
    | charset hno hknown =>
        subst hkey
        rw [validateName_of_no_underscore hno, if_pos hknown]
    | conversion hno hfirst hsecond =>
        rw [validateName_of_underscore hkey hno, if_pos]
        simp only [isSecondPart, Bool.and_eq_true, Bool.or_eq_true, List.contains_iff_mem]
        exact ⟨hfirst, hsecond⟩

/-- A name is accepted if its parts are names up to the blanks around them. -/
theorem validateName_eq_ok_iff {raw s : String} :
    validateName raw = .ok s ↔ Spells (Text.trimmed · ∈ names) (key raw) s := by
  have hknown : ∀ w : String, (∀ c ∈ w.toList, Text.isUpperLetter c = false) →
      (isKnown w = true ↔ Text.trimmed w ∈ names) := by
    intro w hw
    rw [isKnown_iff, key, ← Text.trimmed_lower, Text.lower_eq_self hw]
  rw [validateName_eq_ok_iff_isKnown]
  constructor
  · exact Spells.imp (by decide) (isUpperLetter_key raw) fun w hw => (hknown w hw).mp
  · exact Spells.imp (by decide) (isUpperLetter_key raw) fun w hw => (hknown w hw).mpr

theorem validateName_eq_error {raw : String} {e : Error} (h : validateName raw = .error e) :
    e = .unknownCharset (Text.trimmed raw) := by
  unfold validateName at h
  simp only at h
  split at h
  · split at h
    · cases h
    · cases h
      rfl
  · split at h
    · cases h
    · cases h
      rfl

/-! ## Blanks beside the underscore -/

theorem isBlank_of_mem_legacyParts {w : String} (hw : w ∈ legacyParts) :
    ∀ c ∈ w.toList, Text.isBlank c = false := by
  have hall : (legacyParts.all fun w =>
      (Text.bytes w).all fun b => decide (0x20 < b.toNat) && decide (b.toNat < 0x7F)) = true := by
    decide +kernel
  intro c hc
  have hcode := Text.forall_toNat_of_bytes (P := fun n => decide (0x20 < n) && decide (n < 0x7F))
    (by intro n hn; simp at hn; omega) (List.all_eq_true.mp hall w hw) c hc
  simp only [Bool.and_eq_true, decide_eq_true_eq] at hcode
  exact Text.isBlank_of_visible hcode.1 hcode.2

theorem Spells.isBlank_eq_false (h : Spells (· ∈ names) t s) :
    ∀ c ∈ t.toList, Text.isBlank c = false := by
  cases h with
  | charset _ hknown => exact isBlank_of_mem_names hknown
  | @conversion first second _ hfirst hsecond =>
      intro c hc
      simp only [String.toList_append, List.mem_append] at hc
      rcases hc with (hc | hc) | hc
      · exact isBlank_of_mem_names hfirst c hc
      · obtain rfl : c = '_' := by simpa using hc
        decide
      · rcases hsecond with hcharset | hlegacy
        · exact isBlank_of_mem_names hcharset c (mem_secondPart.1 hc)
        · exact isBlank_of_mem_legacyParts hlegacy c (mem_secondPart.1 hc)

/-- The grammar allows what is accepted, less what has blanks in it. -/
theorem spells_names_iff :
    Spells (· ∈ names) t s ↔
      Spells (Text.trimmed · ∈ names) t s ∧ ∀ c ∈ t.toList, Text.isBlank c = false := by
  constructor
  · intro h
    refine ⟨?_, h.isBlank_eq_false⟩
    refine Spells.imp (P := fun _ => True) trivial (fun _ _ => trivial) (fun w _ hw => ?_) h
    rwa [trimmed_of_mem_names hw]
  · intro h
    refine Spells.imp (by decide) h.2 (fun w hw hknown => ?_) h.1
    rwa [Text.trimmed, Text.trim_eq_self hw, String.ofList_toList] at hknown

/-- **Which names are accepted.** With `t` the text in small letters and without the
blanks around it, the text is accepted as `s` exactly when `t` spells `s`, where the
parts of a conversion may have blanks around them. The grammar allows what is accepted
of texts without blanks, and an accepted name has blanks exactly when `t` has. Every
other text is refused, and the error shows it without the blanks around it. -/
theorem names_accepted_by_parts (raw s : String) :
    (validateName raw = .ok s ↔ Spells (Text.trimmed · ∈ names) (key raw) s)
    ∧ (Spells (· ∈ names) (key raw) s ↔
        validateName raw = .ok s ∧ ∀ c ∈ (key raw).toList, Text.isBlank c = false)
    ∧ (validateName raw = .ok s →
        (∀ c ∈ s.toList, Text.isUpperLetter c = false)
        ∧ ((∀ c ∈ s.toList, Text.isBlank c = false) ↔
            ∀ c ∈ (key raw).toList, Text.isBlank c = false))
    ∧ ((∀ name, validateName raw ≠ .ok name) ↔
        validateName raw = .error (.unknownCharset (Text.trimmed raw))) := by
  refine ⟨validateName_eq_ok_iff, ?_, ?_, ?_⟩
  · rw [validateName_eq_ok_iff]
    exact spells_names_iff
  · intro h
    have hspells := validateName_eq_ok_iff.mp h
    exact ⟨(hspells.forall_mem_iff (by decide)).mpr (isUpperLetter_key raw),
      hspells.forall_mem_iff (by decide)⟩
  · cases hresult : validateName raw with
    | ok name => simp
    | error e => simp [validateName_eq_error hresult]

/-- A blank before the underscore is accepted and kept, and the grammar does not allow it. -/
theorem blank_before_underscore_kept :
    validateName "latin1 _latin2" = .ok "latin1 _latin2"
      ∧ (∃ c ∈ "latin1 _latin2".toList, Text.isBlank c = true)
      ∧ ¬∃ s, Spells (· ∈ names) (key "latin1 _latin2") s := by
  refine ⟨rfl, ⟨' ', by decide, rfl⟩, ?_⟩
  intro h
  obtain ⟨s, hs⟩ := h
  cases hs.isBlank_eq_false ' ' (by decide)

/-! ## Names that are accepted again -/

theorem key_of_spells {raw : String} (h : Spells known (key raw) s) : key s = s := by
  rcases h.eq_or_append with rfl | ⟨rfl, hunder⟩
  · exact key_key raw
  · have htrim : Text.trim (key raw ++ "r").toList = (key raw ++ "r").toList := by
      rw [String.toList_append]
      exact Text.trim_concat (trim_key raw) (List.ne_nil_of_mem hunder) (by decide)
    have hlower : ∀ c ∈ (key raw ++ "r").toList, Text.isUpperLetter c = false :=
      (h.forall_mem_iff (by decide)).mpr (isUpperLetter_key raw)
    rw [key, Text.trimmed, htrim, String.ofList_toList, Text.lower_eq_self hlower]

theorem validateName_of_charset {raw s : String} (h : '_' ∉ raw.toList) :
    validateName raw = .ok s ↔ s = key raw ∧ key raw ∈ names := by
  have hkey : '_' ∉ (key raw).toList := mt underscore_mem_key_iff.mp h
  have hknown : isKnown (key raw) = true ↔ key raw ∈ names := by rw [isKnown_iff, key_key]
  rw [validateName_of_no_underscore hkey, ← hknown]
  split
  · rename_i hcharset
    constructor
    · intro heq
      exact ⟨(Except.ok.inj heq).symm, hcharset⟩
    · intro h
      rw [h.1]
  · rename_i hother
    constructor
    · intro heq
      cases heq
    · intro h
      exact absurd h.2 hother

theorem validateName_of_parse {raw : String} {c : Charset} (h : parse raw = .ok c) :
    '_' ∉ raw.toList ∧ validateName raw = .ok (key raw) := by
  have hnames : key raw ∈ names := mem_names_iff.mpr ⟨c, parse_eq_ok_iff.mp h⟩
  have hno : '_' ∉ raw.toList :=
    mt underscore_mem_key_iff.mpr (underscore_not_mem_of_mem_names hnames)
  exact ⟨hno, (validateName_of_charset hno).mpr ⟨rfl, hnames⟩⟩

theorem parse_key {raw : String} {c : Charset} : parse (key raw) = .ok c ↔ parse raw = .ok c := by
  rw [parse_eq_ok_iff, parse_eq_ok_iff, key_key]

/-- **Accepted names are settled.** An accepted name is accepted as it stands. A text is read as
a character set exactly when it has no underscore and is accepted, and then the accepted name
is read as the same character set. -/
theorem accepted_names_settled (raw : String) :
    (∀ s, validateName raw = .ok s → validateName s = .ok s)
    ∧ ((∃ c, parse raw = .ok c) ↔ '_' ∉ raw.toList ∧ ∃ s, validateName raw = .ok s)
    ∧ ∀ c, parse raw = .ok c ↔
        '_' ∉ raw.toList ∧ ∃ s, validateName raw = .ok s ∧ parse s = .ok c := by
  refine ⟨?_, ?_, ?_⟩
  · intro s hs
    rw [validateName_eq_ok_iff] at hs ⊢
    rw [key_of_spells hs]
    exact hs.self
  · constructor
    · intro h
      obtain ⟨c, hc⟩ := h
      obtain ⟨hno, haccepted⟩ := validateName_of_parse hc
      exact ⟨hno, key raw, haccepted⟩
    · intro h
      obtain ⟨hno, s, hs⟩ := h
      obtain ⟨c, hc⟩ := mem_names_iff.mp ((validateName_of_charset hno).mp hs).2
      exact ⟨c, parse_eq_ok_iff.mpr hc⟩
  · intro c
    constructor
    · intro hc
      obtain ⟨hno, haccepted⟩ := validateName_of_parse hc
      exact ⟨hno, key raw, haccepted, parse_key.mpr hc⟩
    · intro h
      obtain ⟨hno, s, hs, hc⟩ := h
      obtain ⟨rfl, -⟩ := (validateName_of_charset hno).mp hs
      exact parse_key.mp hc

end SqlDialect.Charset
