import Mathlib.Algebra.Group.Int.Defs
import SqlDialect.Platform.Basic
import SqlDialect.Proofs.Mode.Names

/-!
# Modes as text, as numbers and as lists of flags

The three written forms of a mode lose nothing. A mode that can be made at all
(`Mode.Reachable`) has no unknown bits, and what is in effect follows from what
was given (`Mode.Formed`); every form then determines the mode
(`Mode.forms_lossless`).
-/

namespace SqlDialect

namespace Mode

/-! ## Well-formed modes -/

/-- Only flags are given, and those in effect follow from them. -/
structure Formed (m : Mode) : Prop where
  known : m.value.Known
  full_eq : m.full = m.value.expand

theorem formed_ofWord {w : ModeWord} (h : w.Known) : (ofWord w).Formed := ⟨h, rfl⟩

theorem formed_empty : empty.Formed := ⟨ModeWord.known_zero, by decide⟩

theorem formed_ofFlag (f : ModeFlag) : (ofFlag f).Formed := formed_ofWord (ModeWord.known_bit f)

theorem formed_ofFlags (fs : List ModeFlag) : (ofFlags fs).Formed :=
  formed_ofWord (ModeWord.known_zero.insertAll fs)

theorem Formed.eq_ofWord {m : Mode} (h : m.Formed) : m = ofWord m.value := by
  rw [ofWord, ← h.full_eq]

theorem Formed.ofFlags_flags {m : Mode} (h : m.Formed) : ofFlags m.flags = m := by
  rw [ofFlags, flags, h.known.insertAll_flags, ← h.eq_ofWord]

theorem Formed.parseWith_text {m : Mode} (h : m.Formed) (default : Option Mode) :
    parseWith default m.text = .ok m := by
  rw [text, parseWith_names, h.ofFlags_flags]

theorem itemWord_known {default : Option Mode} (hdefault : ∀ d ∈ default, d.Formed)
    {item : String} {w : ModeWord} (h : itemWord default item = .ok w) : w.Known := by
  unfold itemWord at h
  split at h
  · split at h
    · cases h
      exact (hdefault _ rfl).known
    · cases h
  · split at h
    · cases h
      exact ModeWord.known_bit _
    · cases h

theorem readItems_known {default : Option Mode} (hdefault : ∀ d ∈ default, d.Formed) :
    ∀ {rest : List String} {w v : ModeWord}, w.Known → readItems default rest w = .ok v → v.Known
  | [], _, _, hw, h => by
      cases h
      exact hw
  | item :: rest, w, v, hw, h => by
      unfold readItems at h
      split at h
      · cases h
      · rename_i u hu
        exact readItems_known hdefault (hw.or (itemWord_known hdefault hu)) h

theorem parseWith_formed {default : Option Mode} (hdefault : ∀ d ∈ default, d.Formed)
    {s : String} {m : Mode} (h : parseWith default s = .ok m) : m.Formed := by
  unfold parseWith at h
  split at h
  · rename_i w hw
    cases h
    exact formed_ofWord (readItems_known hdefault ModeWord.known_zero hw)
  · cases h

theorem parse_formed {s : String} {m : Mode} (h : parse s = .ok m) : m.Formed :=
  parseWith_formed (by simp) h

theorem defaultMode_formed {catalog : Catalog} {f : Family} {v : Version} {p : Platform}
    (h : Platform.build catalog f v = .ok p) : p.defaultMode.Formed := by
  unfold Platform.build at h
  split at h
  · cases h
  · simp only at h
    split at h
    · cases h
    · rename_i m hm
      cases h
      unfold Platform.modeOf at hm
      split at hm
      · split at hm
        · exact parse_formed hm
        · cases hm
          exact formed_empty
      · cases hm
        exact formed_ofFlag _

/-! ## Numbers -/

theorem numberBound_eq : numberBound = 2 ^ ModeFlag.all.length := rfl

theorem ofInt_eq_ok_iff {b : Int} {m : Mode} :
    ofInt b = .ok m ↔ 0 ≤ b ∧ b < numberBound ∧ m = ofWord (BitVec.ofNat 64 b.toNat) := by
  have hbound : numberBound = 68719476736 := rfl
  unfold ofInt
  split
  · rename_i hneg
    simp only [reduceCtorEq, false_iff]
    omega
  · rename_i hpos
    simp only
    split
    · rename_i hunknown
      simp only [reduceCtorEq, false_iff]
      rw [hbound] at hunknown ⊢
      omega
    · rename_i hknown
      rw [hbound] at hknown ⊢
      have hlt : 0 ≤ b ∧ b < 68719476736 := by omega
      simp [hlt, eq_comm]

theorem toNat_ofNat_of_lt {n : Nat} (h : n < numberBound) : (BitVec.ofNat 64 n).toNat = n := by
  rw [BitVec.toNat_ofNat]
  exact Nat.mod_eq_of_lt (Nat.lt_trans h (by decide))

theorem ofInt_formed {b : Int} {m : Mode} (h : ofInt b = .ok m) : m.Formed := by
  obtain ⟨hpos, hlt, rfl⟩ := ofInt_eq_ok_iff.mp h
  refine formed_ofWord ?_
  rw [ModeWord.Known, toNat_ofNat_of_lt (by omega), ← numberBound_eq]
  omega

theorem Formed.ofInt_value {m : Mode} (h : m.Formed) : ofInt m.value.toInt = .ok m := by
  have hlt : m.value.toNat < numberBound := h.known
  have hint : m.value.toInt = m.value.toNat := by
    refine BitVec.toInt_eq_toNat_of_lt ?_
    have hbound : numberBound = 68719476736 := rfl
    omega
  refine ofInt_eq_ok_iff.mpr ⟨by omega, by omega, ?_⟩
  rw [hint, Int.toNat_natCast, BitVec.ofNat_toNat, BitVec.setWidth_eq]
  exact h.eq_ofWord

/-! ## Modes that can be made -/

/-- The modes that some combination of the operations makes. A text is read
either where there is no platform or on a platform of some catalog. -/
inductive Reachable : Mode → Prop where
  | empty : Reachable Mode.empty
  | ofInt {b : Int} {m : Mode} : Mode.ofInt b = .ok m → Reachable m
  | ofFlags (fs : List ModeFlag) : Reachable (Mode.ofFlags fs)
  | ofFlag (f : ModeFlag) : Reachable (Mode.ofFlag f)
  | parse {s : String} {m : Mode} : Mode.parse s = .ok m → Reachable m
  | parseOn {catalog : Catalog} {f : Family} {v : Version} {p : Platform} {s : String} {m : Mode} :
      Platform.build catalog f v = .ok p → parseWith (some p.defaultMode) s = .ok m → Reachable m
  | insert {m : Mode} (f : ModeFlag) : Reachable m → Reachable (m.insert f)
  | erase {m : Mode} (f : ModeFlag) : Reachable m → Reachable (m.erase f)

theorem Reachable.formed {m : Mode} (h : Reachable m) : m.Formed := by
  induction h with
  | empty => exact formed_empty
  | ofInt h => exact ofInt_formed h
  | ofFlags fs => exact formed_ofFlags fs
  | ofFlag f => exact formed_ofFlag f
  | parse h => exact parse_formed h
  | parseOn hbuild h =>
      refine parseWith_formed (fun d hd => ?_) h
      cases hd
      exact defaultMode_formed hbuild
  | insert f _ ih => exact formed_ofWord (ih.known.or (ModeWord.known_bit f))
  | erase f _ ih => exact formed_ofWord (ih.known.and _)

/-! ## The headline theorem -/

/-- **No form loses anything.** A mode that can be made is read back from its
text, with and without a platform, from its number and from its flags; the
numbers that are modes are those below `2 ^ 36`, each the value of its mode; and
different modes have different texts. -/
theorem forms_lossless :
    (∀ m, Reachable m →
      parse m.text = .ok m
      ∧ (∀ p : Platform, parseWith (some p.defaultMode) m.text = .ok m)
      ∧ ofInt m.value.toInt = .ok m
      ∧ ofFlags m.flags = m)
    ∧ (∀ b : Int, ((∃ m, ofInt b = .ok m) ↔ 0 ≤ b ∧ b < 2 ^ 36)
      ∧ ∀ m, ofInt b = .ok m → (m.value.toNat : Int) = b)
    ∧ (∀ m m', Reachable m → Reachable m' → m.text = m'.text → m = m') := by
  refine ⟨fun m hm => ?_, fun b => ⟨?_, fun m h => ?_⟩, fun m m' hm hm' htext => ?_⟩
  · have hformed := hm.formed
    exact ⟨hformed.parseWith_text none, fun p => hformed.parseWith_text _, hformed.ofInt_value,
      hformed.ofFlags_flags⟩
  · have hbound : ((numberBound : Nat) : Int) = 2 ^ 36 := rfl
    simp only [ofInt_eq_ok_iff, hbound, exists_and_left, exists_eq, and_true]
  · obtain ⟨hpos, hlt, rfl⟩ := ofInt_eq_ok_iff.mp h
    have hvalue : (ofWord (BitVec.ofNat 64 b.toNat)).value.toNat = b.toNat :=
      toNat_ofNat_of_lt (by omega)
    omega
  · have hback := hm.formed.parseWith_text none
    rw [htext, hm'.formed.parseWith_text none] at hback
    exact (Except.ok.inj hback).symm

/-- A group beside one of its members: the text names what was given and no
more, and reading it gives the whole mode back. -/
theorem forms_lossless_ansi :
    Reachable ((ofFlag .ansi).insert .ansiQuotes)
    ∧ parse "ANSI_QUOTES,ANSI" = .ok ((ofFlag .ansi).insert .ansiQuotes)
    ∧ ofInt 262148 = .ok ((ofFlag .ansi).insert .ansiQuotes)
    ∧ ofFlags [.ansiQuotes, .ansi] = (ofFlag .ansi).insert .ansiQuotes := by
  have hreach : Reachable ((ofFlag .ansi).insert .ansiQuotes) := .insert _ (.ofFlag _)
  obtain ⟨hparse, -, hnumber, hflags⟩ := forms_lossless.1 _ hreach
  have htext : ((ofFlag .ansi).insert .ansiQuotes).text = "ANSI_QUOTES,ANSI" := by decide +kernel
  have hvalue : ((ofFlag .ansi).insert .ansiQuotes).value.toInt = 262148 := by decide +kernel
  have hlist : ((ofFlag .ansi).insert .ansiQuotes).flags = [.ansiQuotes, .ansi] := by
    decide +kernel
  exact ⟨hreach, htext ▸ hparse, hvalue ▸ hnumber, hlist ▸ hflags⟩

end Mode

end SqlDialect
