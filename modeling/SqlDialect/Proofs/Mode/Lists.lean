import SqlDialect.Platform.Basic
import SqlDialect.Proofs.Mode.Expansion
import SqlDialect.Proofs.Mode.Items
import SqlDialect.Proofs.Mode.Reading

/-!
# Lists of names as unions

A list of names is read item by item, and the first item that cannot be read ends it.
What an item is read as, with and without a platform, is said by the rules of
`Mode.Reads`. From there reading is a map from lists to unions:

- the flags of two lists that are joined are the union of the flags of both, and what is
  wrong is what is wrong with the first of them, or else with the second
  (`parseWith_append`);
- a list is read exactly when all its items are (`exists_readItems_iff`), as the union of
  what they are read as (`getLsbD_readItems`), so that only the set of its items counts
  (`parseWith_congr`).

Without a platform the item `DEFAULT` is one that cannot be read.
-/

namespace SqlDialect

namespace Mode

/-! ## One item -/

/-- What an item is read as, where `DEFAULT` means `default`. -/
inductive Reads (default : Option Mode) (name : String) : Except ModeError ModeWord → Prop
  | flag {f : ModeFlag} : Text.sameName name f.name = true → Reads default name (.ok f.bit)
  | default {m : Mode} : Text.sameName name "DEFAULT" = true → default = some m →
      Reads default name (.ok m.value)
  | noPlatform : Text.sameName name "DEFAULT" = true → default = none →
      Reads default name (.error .defaultWithoutPlatform)
  | unknown : Text.sameName name "DEFAULT" = false →
      (∀ f : ModeFlag, Text.sameName name f.name = false) →
      Reads default name (.error (.unknownName (Text.upper name)))

theorem upper_eq_default_iff {name : String} :
    Text.upper name = "DEFAULT" ↔ Text.sameName name "DEFAULT" = true := by
  have hcapital : Text.upper "DEFAULT" = "DEFAULT" := by decide +kernel
  rw [Text.sameName_iff, hcapital]

theorem not_default_of_flag {name : String} {f : ModeFlag} (h : Text.sameName name f.name = true) :
    Text.upper name ≠ "DEFAULT" := by
  rw [Text.sameName_iff, f.upper_name] at h
  rw [h]
  exact f.name_ne_default

theorem named?_upper_iff {name : String} (h : Text.trimmed name = name) {f : ModeFlag} :
    ModeFlag.named? (Text.upper name) = some f ↔ Text.sameName name f.name = true := by
  rw [ModeFlag.named?_eq_some_iff, Text.trimmed_upper, h, Text.sameName_iff, Text.upper_upper,
    Text.sameName_iff, eq_comm]

theorem itemWord_of_reads {default : Option Mode} {name : String} (hname : Text.trimmed name = name)
    {r : Except ModeError ModeWord} (h : Reads default name r) :
    itemWord default (Text.upper name) = r := by
  unfold itemWord
  cases h with
  | flag hflag =>
      rw [if_neg (not_default_of_flag hflag), ModeFlag.parse, (named?_upper_iff hname).mpr hflag]
  | default hdefault hm => rw [if_pos (upper_eq_default_iff.mpr hdefault), hm]
  | noPlatform hdefault hnone => rw [if_pos (upper_eq_default_iff.mpr hdefault), hnone]
  | unknown hdefault hflag =>
      have hne : Text.upper name ≠ "DEFAULT" := by
        rw [ne_eq, upper_eq_default_iff, hdefault]
        decide
      have hnone : ModeFlag.named? (Text.upper name) = none := by
        refine Option.eq_none_iff_forall_ne_some.mpr fun f hf => ?_
        rw [named?_upper_iff hname, hflag f] at hf
        cases hf
      rw [if_neg hne, ModeFlag.parse, hnone, Text.trimmed_upper, hname]

theorem exists_reads (default : Option Mode) (name : String) : ∃ r, Reads default name r := by
  cases hdefault : Text.sameName name "DEFAULT" with
  | true =>
      cases default with
      | none => exact ⟨_, .noPlatform hdefault rfl⟩
      | some m => exact ⟨_, .default hdefault rfl⟩
  | false =>
      by_cases hflag : ∃ f : ModeFlag, Text.sameName name f.name = true
      · obtain ⟨f, hf⟩ := hflag
        exact ⟨_, .flag hf⟩
      · exact ⟨_, .unknown hdefault fun f => Bool.eq_false_iff.mpr fun hf => hflag ⟨f, hf⟩⟩

theorem itemWord_eq_iff {default : Option Mode} {name : String} (hname : Text.trimmed name = name)
    {r : Except ModeError ModeWord} :
    itemWord default (Text.upper name) = r ↔ Reads default name r := by
  constructor
  · rintro rfl
    obtain ⟨r, hr⟩ := exists_reads default name
    rwa [itemWord_of_reads hname hr]
  · exact itemWord_of_reads hname

theorem reads_ok_iff {m : Mode} {name : String} :
    (∃ w, Reads (some m) name (.ok w)) ↔
      Text.sameName name "DEFAULT" = true ∨ ∃ f : ModeFlag, Text.sameName name f.name = true := by
  constructor
  · rintro ⟨w, hflag | ⟨hdefault, -⟩⟩
    · exact Or.inr ⟨_, hflag⟩
    · exact Or.inl hdefault
  · rintro (hdefault | ⟨f, hf⟩)
    · exact ⟨_, .default hdefault rfl⟩
    · exact ⟨_, .flag hf⟩

/-! ## Whole lists -/

theorem parseWith_eq (default : Option Mode) (s : String) :
    parseWith default s = (readItems default (items s) 0).map ofWord := by
  rw [parseWith]
  cases readItems default (items s) 0 <;> rfl

theorem parseWith_eq_ok_iff {default : Option Mode} {s : String} {m : Mode} :
    parseWith default s = .ok m ↔
      m = ofWord m.value ∧ readItems default (items s) 0 = .ok m.value := by
  rw [parseWith_eq]
  cases readItems default (items s) 0 with
  | error e => simp [Except.map]
  | ok w =>
      simp only [Except.map, Except.ok.injEq]
      constructor
      · rintro rfl
        exact ⟨rfl, rfl⟩
      · rintro ⟨hm, rfl⟩
        exact hm.symm

/-- Lists that are joined are read one after the other, and their flags united. -/
theorem parseWith_append (default : Option Mode) (a b : String) :
    parseWith default (a ++ "," ++ b) = (do
      let m ← parseWith default a
      let n ← parseWith default b
      pure (ofWord (m.value ||| n.value))) := by
  have hrest : ∀ w, readItems default (items b) w
      = (readItems default (items b) 0).map (w ||| ·) := by
    intro w
    have hzero : w ||| 0 = w := BitVec.or_zero
    rw [← readItems_or, hzero]
  rw [parseWith_eq, items_append, readItems_append, parseWith_eq, parseWith_eq]
  cases readItems default (items a) 0 with
  | error e => rfl
  | ok w =>
      simp only [Except.bind, hrest w]
      cases readItems default (items b) 0 <;> rfl

theorem parseWith_congr {default : Option Mode} {s t : String}
    (h : ∀ item, item ∈ items s ↔ item ∈ items t) {m : Mode} (hs : parseWith default s = .ok m) :
    parseWith default t = .ok m := by
  obtain ⟨hm, hread⟩ := parseWith_eq_ok_iff.mp hs
  have hall := exists_readItems_iff.mp ⟨m.value, hread⟩
  obtain ⟨v, hv⟩ : ∃ v, readItems default (items t) 0 = .ok v :=
    exists_readItems_iff.mpr fun item hitem => hall item ((h item).mpr hitem)
  have hvalue : v = m.value := by
    refine ModeWord.ext_bits fun i => ?_
    simp only [getLsbD_readItems hv, getLsbD_readItems hread, h]
  exact parseWith_eq_ok_iff.mpr ⟨hm, hvalue ▸ hv⟩

theorem parseWith_respelled (default : Option Mode) {ps qs : List String} (h : Respelled ps qs) :
    parseWith default (",".intercalate ps) = parseWith default (",".intercalate qs) := by
  rw [parseWith_eq, parseWith_eq, h.items_eq]

theorem parseWith_rearranged {default : Option Mode} {ps qs : List String}
    (h : ∀ p, p ∈ ps ↔ p ∈ qs) {m : Mode} :
    parseWith default (",".intercalate ps) = .ok m ↔
      parseWith default (",".intercalate qs) = .ok m := by
  have hitems : ∀ item, item ∈ items (",".intercalate ps) ↔ item ∈ items (",".intercalate qs) := by
    intro item
    simp only [items_intercalate, List.mem_flatMap, h]
  exact ⟨parseWith_congr hitems, parseWith_congr fun item => (hitems item).symm⟩

namespace Itemized

variable {s : String} {names : List String}

theorem itemWord_iff (h : Itemized s names) {default : Option Mode} {name : String}
    (hname : name ∈ names) {r : Except ModeError ModeWord} :
    itemWord default (Text.upper name) = r ↔ Reads default name r :=
  itemWord_eq_iff (h.trimmed_eq name hname)

theorem exists_parseWith_iff (h : Itemized s names) {m : Mode} :
    (∃ n, parseWith (some m) s = .ok n) ↔ ∀ name ∈ names,
      Text.sameName name "DEFAULT" = true ∨ ∃ f : ModeFlag, Text.sameName name f.name = true := by
  have hread : (∃ n, parseWith (some m) s = .ok n) ↔
      ∃ v, readItems (some m) (items s) 0 = .ok v := by
    constructor
    · rintro ⟨n, hn⟩
      exact ⟨_, (parseWith_eq_ok_iff.mp hn).2⟩
    · rintro ⟨v, hv⟩
      exact ⟨ofWord v, parseWith_eq_ok_iff.mpr ⟨rfl, hv⟩⟩
  rw [hread, exists_readItems_iff, h.items_eq, List.forall_mem_map]
  refine forall₂_congr fun name hname => ?_
  simp only [h.itemWord_iff hname, reads_ok_iff]

theorem getLsbD_parseWith (h : Itemized s names) {m n : Mode} (hn : parseWith (some m) s = .ok n)
    (i : Nat) :
    n.value.getLsbD i = true ↔ ∃ name ∈ names,
      Text.sameName name "DEFAULT" = true ∧ m.value.getLsbD i = true
      ∨ ∃ f : ModeFlag, Text.sameName name f.name = true ∧ f.bit.getLsbD i = true := by
  rw [getLsbD_readItems (parseWith_eq_ok_iff.mp hn).2, h.items_eq]
  constructor
  · rintro (hzero | ⟨item, hitem, u, hu, hi⟩)
    · simp at hzero
    · obtain ⟨name, hname, rfl⟩ := List.mem_map.mp hitem
      refine ⟨name, hname, ?_⟩
      cases (h.itemWord_iff hname).mp hu with
      | flag hflag => exact Or.inr ⟨_, hflag, hi⟩
      | default hdefault hm =>
          cases hm
          exact Or.inl ⟨hdefault, hi⟩
  · rintro ⟨name, hname, ⟨hdefault, hi⟩ | ⟨f, hflag, hi⟩⟩
    · exact Or.inr ⟨_, List.mem_map_of_mem hname, _,
        (h.itemWord_iff hname).mpr (.default hdefault rfl), hi⟩
    · exact Or.inr ⟨_, List.mem_map_of_mem hname, _, (h.itemWord_iff hname).mpr (.flag hflag), hi⟩

/-- Without `DEFAULT` no platform is needed. -/
theorem parse_eq (h : Itemized s names)
    (hnone : ∀ name ∈ names, Text.sameName name "DEFAULT" = false) (m : Mode) :
    parse s = parseWith (some m) s := by
  rw [parse, parseWith_eq, parseWith_eq, h.items_eq]
  refine congrArg (Except.map ofWord) (readItems_congr ?_ 0)
  refine List.forall_mem_map.mpr fun name hname => ?_
  rw [h.itemWord_iff hname]
  obtain ⟨r, hr⟩ := exists_reads (some m) name
  rw [(h.itemWord_iff hname).mpr hr]
  cases hr with
  | flag hflag => exact .flag hflag
  | default hdefault _ => exact absurd hdefault (by simp [hnone name hname])
  | noPlatform _ hm => cases hm
  | unknown hdefault hflag => exact .unknown hdefault hflag

/-- The first item that cannot be read is the error. -/
theorem parseWith_eq_error {before after : List String} {name : String}
    (h : Itemized s (before ++ name :: after)) {default : Option Mode} {e : ModeError}
    (hbefore : ∀ b ∈ before, ∃ w, Reads default b (.ok w)) (hname : Reads default name (.error e)) :
    parseWith default s = .error e := by
  have hread : readItems default (items s) 0 = .error e := by
    rw [h.items_eq, List.map_append, List.map_cons]
    refine readItems_eq_error (List.forall_mem_map.mpr ?_) ((h.itemWord_iff (by simp)).mpr hname) 0
    intro b hb
    obtain ⟨w, hw⟩ := hbefore b hb
    exact ⟨w, (h.itemWord_iff (List.mem_append_left _ hb)).mpr hw⟩
  rw [parseWith_eq, hread]
  rfl

/-- With `DEFAULT` a platform is needed: without one, the first item that is no flag is
the error. -/
theorem parse_eq_error (h : Itemized s names)
    (hsome : ∃ name ∈ names, Text.sameName name "DEFAULT" = true) :
    ∃ before name after, names = before ++ name :: after
      ∧ (∀ b ∈ before, ∃ f : ModeFlag, Text.sameName b f.name = true)
      ∧ (∀ f : ModeFlag, Text.sameName name f.name = false)
      ∧ parse s = .error (if Text.sameName name "DEFAULT" then .defaultWithoutPlatform
        else .unknownName (Text.upper name)) := by
  rcases Text.forall_or_first (fun b => ∃ f : ModeFlag, Text.sameName b f.name = true) names with
    hall | ⟨before, name, after, rfl, hbefore, hname⟩
  · obtain ⟨name, hname, hdefault⟩ := hsome
    obtain ⟨f, hf⟩ := hall name hname
    exact absurd (upper_eq_default_iff.mpr hdefault) (not_default_of_flag hf)
  · have hnone : ∀ f : ModeFlag, Text.sameName name f.name = false := fun f =>
      Bool.eq_false_iff.mpr fun hf => hname ⟨f, hf⟩
    refine ⟨before, name, after, rfl, hbefore, hnone, h.parseWith_eq_error ?_ ?_⟩
    · intro b hb
      obtain ⟨f, hf⟩ := hbefore b hb
      exact ⟨f.bit, .flag hf⟩
    · cases hdefault : Text.sameName name "DEFAULT" with
      | true => exact .noPlatform hdefault rfl
      | false => exact .unknown hdefault hnone

end Itemized

/-! ## The headline theorem -/

/-- **Lists of names are unions.** A list joined from two has the flags of both, or what
is wrong with the first that is wrong. On a platform it is read exactly when each item
is `DEFAULT` or the name of a flag; without one, `DEFAULT` is no name, and a list that
has it is refused for its first item that is no flag. Case, blanks and blank pieces
never count; order and repetition count only for which error comes first. -/
theorem lists_are_unions (p : Platform) :
    (∀ a b, parseWith (some p.defaultMode) (a ++ "," ++ b) = (do
      let m ← parseWith (some p.defaultMode) a
      let n ← parseWith (some p.defaultMode) b
      pure (ofWord (m.value ||| n.value))))
    ∧ (∀ s, ∃ names, Itemized s names)
    ∧ (∀ s names, Itemized s names →
      ((∃ m, parseWith (some p.defaultMode) s = .ok m) ↔ ∀ name ∈ names,
        Text.sameName name "DEFAULT" = true ∨ ∃ f : ModeFlag, Text.sameName name f.name = true)
      ∧ (∀ m, parseWith (some p.defaultMode) s = .ok m → m = ofWord m.value
        ∧ ∀ i, m.value.getLsbD i = true ↔ ∃ name ∈ names,
          Text.sameName name "DEFAULT" = true ∧ p.defaultMode.value.getLsbD i = true
          ∨ ∃ f : ModeFlag, Text.sameName name f.name = true ∧ f.bit.getLsbD i = true)
      ∧ ((∀ name ∈ names, Text.sameName name "DEFAULT" = false) →
        parse s = parseWith (some p.defaultMode) s)
      ∧ ((∃ name ∈ names, Text.sameName name "DEFAULT" = true) →
        ∃ before name after, names = before ++ name :: after
          ∧ (∀ b ∈ before, ∃ f : ModeFlag, Text.sameName b f.name = true)
          ∧ (∀ f : ModeFlag, Text.sameName name f.name = false)
          ∧ parse s = .error (if Text.sameName name "DEFAULT" then .defaultWithoutPlatform
            else .unknownName (Text.upper name))))
    ∧ (∀ ps qs, Respelled ps qs →
      parseWith (some p.defaultMode) (",".intercalate ps)
        = parseWith (some p.defaultMode) (",".intercalate qs))
    ∧ (∀ ps qs : List String, (∀ x, x ∈ ps ↔ x ∈ qs) → ∀ m,
      parseWith (some p.defaultMode) (",".intercalate ps) = .ok m ↔
        parseWith (some p.defaultMode) (",".intercalate qs) = .ok m) := by
  refine ⟨parseWith_append _, exists_itemized, ?_, ?_, ?_⟩
  · intro s names h
    refine ⟨h.exists_parseWith_iff, ?_, fun hnone => h.parse_eq hnone _, h.parse_eq_error⟩
    intro m hm
    exact ⟨(parseWith_eq_ok_iff.mp hm).1, h.getLsbD_parseWith hm⟩
  · intro ps qs h
    exact parseWith_respelled _ h
  · intro ps qs h m
    exact parseWith_rearranged h

/-- Two items among blank ones, one of them `DEFAULT`: a union on a platform, refused
without one; the order does not matter. -/
theorem lists_are_unions_blank_items :
    ∃ p : Platform, p.defaultMode = ofFlags [.strictTransTables]
      ∧ Itemized " ansi,\u2003, Default," ["ansi", "Default"]
      ∧ parseWith (some p.defaultMode) " ansi,\u2003, Default,"
        = .ok (ofFlags [.ansi, .strictTransTables])
      ∧ (∃ e, parse " ansi,\u2003, Default," = .error e)
      ∧ parseWith (some p.defaultMode) "Default,ANSI,Default"
        = .ok (ofFlags [.ansi, .strictTransTables]) := by
  let p : Platform := ⟨.mysql, ⟨5, some 7, none⟩, ⟨5, some 7, none⟩, .nothing, [],
    ofFlags [.strictTransTables]⟩
  obtain ⟨hunion, -, hread, -, hrearranged⟩ := lists_are_unions p
  have hitems : Itemized " ansi,\u2003, Default," ["ansi", "Default"] := by
    refine ⟨[[' ', 'a', 'n', 's', 'i'], ['\u2003'], " Default".toList, []],
      Text.cuts_iff.mpr (by decide +kernel), ?_⟩
    refine .item (Text.trims_iff.mpr (by decide +kernel)) (by decide) ?_
    refine .blank (Text.trims_iff.mpr (by decide +kernel)) ?_
    refine .item (Text.trims_iff.mpr (by decide +kernel)) (by decide) ?_
    exact .blank (Text.trims_iff.mpr rfl) .nil
  have hansi : parseWith (some p.defaultMode) " ansi,\u2003" = .ok (ofFlag .ansi) := rfl
  have hdefault : parseWith (some p.defaultMode) " Default,"
      = .ok (ofFlags [.strictTransTables]) := rfl
  have hjoined := hunion " ansi,\u2003" " Default,"
  rw [hansi, hdefault] at hjoined
  obtain ⟨-, -, -, hrefused⟩ := hread _ _ hitems
  obtain ⟨_, _, _, -, -, -, herror⟩ := hrefused ⟨"Default", by simp, by decide +kernel⟩
  have hplain : parseWith (some p.defaultMode) (",".intercalate ["ANSI", "Default"])
      = .ok (ofFlags [.ansi, .strictTransTables]) := rfl
  have hagain := (hrearranged ["ANSI", "Default"] ["Default", "ANSI", "Default"]
    (by simp [or_comm]) _).mp hplain
  exact ⟨p, rfl, hitems, hjoined, ⟨_, herror⟩, hagain⟩

end Mode

end SqlDialect
