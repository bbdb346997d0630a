import Mathlib.Data.List.Basic
import SqlDialect.Proofs.Mode.RoundTrip

/-!
# Reading lists of names

The items of a list are read one after the other, and their flags united. Reading ends
at the first item that cannot be read (`readItems_eq_error`); without one, the bits at
the end are those at the start and those of the items (`getLsbD_readItems`).

Where there is a platform, `DEFAULT` can be read, and the only thing that can be wrong
with a list of names is an item that names no flag. `Mode.parseWith_some` says all that
reading a list can come to: the first such item is the error, and it does not depend on
the platform; without one the mode has the flags that the items give, in any order and
however often.
-/

namespace SqlDialect

namespace Mode

/-! ## Item by item -/

theorem readItems_append (default : Option Mode) (xs ys : List String) (w : ModeWord) :
    readItems default (xs ++ ys) w = (readItems default xs w).bind (readItems default ys) := by
  induction xs generalizing w with
  | nil => rfl
  | cons item xs ih =>
      rw [List.cons_append, readItems, readItems]
      cases itemWord default item with
      | error e => rfl
      | ok v => exact ih (w ||| v)

theorem readItems_or (default : Option Mode) (xs : List String) (u w : ModeWord) :
    readItems default xs (u ||| w) = (readItems default xs w).map (u ||| ·) := by
  induction xs generalizing w with
  | nil => rfl
  | cons item xs ih =>
      rw [readItems, readItems]
      cases itemWord default item with
      | error e => rfl
      | ok v =>
          simp only
          rw [BitVec.or_assoc, ih]

/-- Reading goes on until the first item that cannot be read. -/
theorem readItems_eq_error {default : Option Mode} {before after : List String} {item : String}
    {e : ModeError} (hbefore : ∀ b ∈ before, ∃ v, itemWord default b = .ok v)
    (hitem : itemWord default item = .error e) (w : ModeWord) :
    readItems default (before ++ item :: after) w = .error e := by
  induction before generalizing w with
  | nil => rw [List.nil_append, readItems, hitem]
  | cons b before ih =>
      obtain ⟨v, hv⟩ := hbefore b (List.mem_cons_self ..)
      rw [List.cons_append, readItems, hv]
      exact ih (fun c hc => hbefore c (List.mem_cons_of_mem _ hc)) (w ||| v)

theorem exists_readItems_iff {default : Option Mode} {xs : List String} {w : ModeWord} :
    (∃ v, readItems default xs w = .ok v) ↔ ∀ item ∈ xs, ∃ v, itemWord default item = .ok v := by
  induction xs generalizing w with
  | nil => simp [readItems]
  | cons item xs ih =>
      rw [List.forall_mem_cons, readItems]
      cases hitem : itemWord default item with
      | error e => simp
      | ok v => simpa using ih (w := w ||| v)

theorem getLsbD_readItems {default : Option Mode} {xs : List String} {w v : ModeWord}
    (h : readItems default xs w = .ok v) (i : Nat) :
    v.getLsbD i = true ↔ w.getLsbD i = true
      ∨ ∃ item ∈ xs, ∃ u, itemWord default item = .ok u ∧ u.getLsbD i = true := by
  induction xs generalizing w with
  | nil =>
      cases h
      simp
  | cons item xs ih =>
      rw [readItems] at h
      cases hitem : itemWord default item with
      | error e =>
          rw [hitem] at h
          cases h
      | ok u =>
          rw [hitem] at h
          simp [ih h, hitem, or_assoc]

theorem readItems_congr {default default' : Option Mode} {xs : List String}
    (h : ∀ item ∈ xs, itemWord default item = itemWord default' item) (w : ModeWord) :
    readItems default xs w = readItems default' xs w := by
  induction xs generalizing w with
  | nil => rfl
  | cons item xs ih =>
      obtain ⟨hitem, hrest⟩ := List.forall_mem_cons.mp h
      rw [readItems, readItems, hitem]
      cases itemWord default' item with
      | error e => rfl
      | ok v => exact ih hrest (w ||| v)

/-! ## Where there is a platform -/

def isItem (item : String) : Bool := item == "DEFAULT" || (ModeFlag.named? item).isSome

/-- Does the item give the flag, where `DEFAULT` stands for the flags of a mode? -/
def itemGives (default : Mode) (item : String) (f : ModeFlag) : Bool :=
  if item = "DEFAULT" then default.flags.contains f else ModeFlag.named? item == some f

/-- The flags that the items of a list give together. -/
def listed (default : Mode) (text : String) : List ModeFlag :=
  ModeFlag.all.filter fun f => (items text).any fun item => default.itemGives item f

/-- What is wrong with the first item that cannot be read. -/
def firstWrong? (names : List String) : Option ModeError :=
  (names.find? fun item => !isItem item).map fun item => .unknownName (Text.trimmed item)

theorem itemWord_cases (default : Mode) (item : String) :
    (isItem item = true ∧ ∃ w, itemWord (some default) item = .ok w ∧
        ∀ f, w.has f = true ↔ default.itemGives item f = true)
      ∨ (isItem item = false ∧
        itemWord (some default) item = .error (.unknownName (Text.trimmed item))) := by
  unfold itemWord isItem itemGives
  by_cases hdefault : item = "DEFAULT"
  · refine Or.inl ⟨by simp [hdefault], default.value, by rw [if_pos hdefault], fun f => ?_⟩
    rw [if_pos hdefault, List.contains_iff_mem, flags, ModeWord.mem_flags]
  · rw [if_neg hdefault]
    cases hnamed : ModeFlag.named? item with
    | none => exact Or.inr ⟨by simp [hdefault], by rw [ModeFlag.parse, hnamed]⟩
    | some g =>
        refine Or.inl ⟨by simp, g.bit, by rw [ModeFlag.parse, hnamed], fun f => ?_⟩
        rw [if_neg hdefault, ModeWord.has_bit, beq_iff_eq, Option.some.injEq]

theorem readItems_of_wrong (default : Mode) {names : List String} {e : ModeError}
    (h : firstWrong? names = some e) (w : ModeWord) :
    readItems (some default) names w = .error e := by
  obtain ⟨item, hfind, rfl⟩ := Option.map_eq_some_iff.mp h
  obtain ⟨hwrong, before, after, rfl, hbefore⟩ := List.find?_eq_some_iff_append.mp hfind
  refine readItems_eq_error ?_ ?_ w
  · intro b hb
    rcases itemWord_cases default b with ⟨-, v, hv, -⟩ | ⟨hitem, -⟩
    · exact ⟨v, hv⟩
    · exact absurd (hbefore b hb) (by simp [hitem])
  · rcases itemWord_cases default item with ⟨hitem, -⟩ | ⟨-, herror⟩
    · exact absurd hwrong (by simp [hitem])
    · exact herror

theorem readItems_of_no_wrong (default : Mode) {names : List String}
    (h : firstWrong? names = none) (w : ModeWord) :
    ∃ v, readItems (some default) names w = .ok v ∧
      ∀ f, v.has f = true ↔ w.has f = true ∨ ∃ item ∈ names, default.itemGives item f = true := by
  have hread : ∀ item ∈ names, ∃ u, itemWord (some default) item = .ok u ∧
      ∀ f, u.has f = true ↔ default.itemGives item f = true := by
    intro item hitem
    rcases itemWord_cases default item with ⟨-, hgives⟩ | ⟨hwrong, -⟩
    · exact hgives
    · have hright := List.find?_eq_none.mp (Option.map_eq_none_iff.mp h) item hitem
      exact absurd hwrong (by simpa using hright)
  obtain ⟨v, hv⟩ : ∃ v, readItems (some default) names w = .ok v :=
    exists_readItems_iff.mpr fun item hitem => (hread item hitem).imp fun _ hu => hu.1
  refine ⟨v, hv, fun f => ?_⟩
  rw [ModeWord.has, getLsbD_readItems hv, ← ModeWord.has]
  refine or_congr_right (exists_congr fun item => and_congr_right fun hitem => ?_)
  obtain ⟨u, hu, hgives⟩ := hread item hitem
  rw [hu, ← hgives f]
  simp [ModeWord.has]

/-- A list of names is read as the flags that its items give together, or refused for
the first item that cannot be read, whatever `DEFAULT` means. -/
theorem parseWith_some {default : Mode} (hdefault : default.Formed) (text : String) :
    parseWith (some default) text = match firstWrong? (items text) with
      | some e => .error e
      | none => .ok (ofFlags (listed default text)) := by
  cases hwrong : firstWrong? (items text) with
  | some e => rw [parseWith, readItems_of_wrong default hwrong]
  | none =>
      obtain ⟨v, hv, hhas⟩ := readItems_of_no_wrong default hwrong 0
      have hknown : v.Known := readItems_known (by simpa using hdefault) ModeWord.known_zero hv
      have hword : v = ModeWord.insertAll 0 (listed default text) := by
        refine hknown.ext (ModeWord.known_zero.insertAll _) fun f => ?_
        simp [hhas, listed, ModeFlag.mem_all]
      rw [parseWith, hv, hword]
      rfl

end Mode

end SqlDialect
