import Mathlib.Data.List.Nodup
import SqlDialect.Charset.Basic
import SqlDialect.Proofs.Text.Bytes
import SqlDialect.Proofs.Text.Case

/-!
# Names of character sets

The names are made of small letters and digits, no two character sets share one, and
`utf8` has the second name `utf8mb3`. A text is therefore read as a character set exactly
when it is, in small letters and without the blanks around it, a name of that set
(`Charset.parse_eq_ok_iff`).
-/

namespace SqlDialect.Charset

/-! ## The names -/

def names : List String := all.map name ++ ["utf8mb3"]

/-- The text is a name of the character set. -/
def IsNamed (w : String) (c : Charset) : Prop := w = c.name ∨ w = "utf8mb3" ∧ c = .utf8

theorem mem_all (c : Charset) : c ∈ all := by
  cases c <;> decide

theorem mem_names_iff {w : String} : w ∈ names ↔ ∃ c, IsNamed w c := by
  simp only [names, IsNamed, List.mem_append, List.mem_map, List.mem_singleton]
  constructor
  · intro h
    rcases h with ⟨c, -, rfl⟩ | rfl
    · exact ⟨c, Or.inl rfl⟩
    · exact ⟨.utf8, Or.inr ⟨rfl, rfl⟩⟩
  · intro h
    rcases h with ⟨c, rfl | ⟨rfl, -⟩⟩
    · exact Or.inl ⟨c, c.mem_all, rfl⟩
    · exact Or.inr rfl

theorem IsNamed.unique {w : String} {c d : Charset} (hc : IsNamed w c) (hd : IsNamed w d) :
    c = d := by
  have hnodup : names.Nodup := by decide +kernel
  obtain ⟨hsets, -, hsecond⟩ := List.nodup_append.mp hnodup
  have hother : ∀ c : Charset, c.name ≠ "utf8mb3" := fun c =>
    hsecond _ (List.mem_map_of_mem c.mem_all) _ (List.mem_singleton.mpr rfl)
  rcases hc with rfl | ⟨rfl, rfl⟩
  · rcases hd with heq | ⟨heq, -⟩
    · exact List.inj_on_of_nodup_map hsets c.mem_all d.mem_all heq
    · exact absurd heq (hother c)
  · rcases hd with heq | ⟨-, rfl⟩
    · exact absurd heq.symm (hother d)
    · rfl

/-- The codes of small letters and digits. -/
def isNameCode (n : Nat) : Bool := (0x61 ≤ n && n ≤ 0x7A) || (0x30 ≤ n && n ≤ 0x39)

theorem isNameCode_iff {n : Nat} :
    isNameCode n = true ↔ (0x61 ≤ n ∧ n ≤ 0x7A) ∨ (0x30 ≤ n ∧ n ≤ 0x39) := by
  simp [isNameCode]

theorem isNameCode_of_mem_names {w : String} (hw : w ∈ names) :
    ∀ c ∈ w.toList, isNameCode c.toNat = true := by
  have hall : (names.all fun w => (Text.bytes w).all (isNameCode ·.toNat)) = true := by
    decide +kernel
  refine Text.forall_toNat_of_bytes ?_ (List.all_eq_true.mp hall w hw)
  intro n hn
  rw [isNameCode_iff] at hn
  omega

theorem lower_of_mem_names {w : String} (hw : w ∈ names) : Text.lower w = w := by
  refine Text.lower_eq_self fun c hc => ?_
  have hcode := isNameCode_iff.mp (isNameCode_of_mem_names hw c hc)
  simp only [Text.isUpperLetter, Bool.and_eq_false_iff, decide_eq_false_iff_not]
  omega

theorem isBlank_of_mem_names {w : String} (hw : w ∈ names) :
    ∀ c ∈ w.toList, Text.isBlank c = false := by
  intro c hc
  have hcode := isNameCode_iff.mp (isNameCode_of_mem_names hw c hc)
  exact Text.isBlank_of_visible (by omega) (by omega)

theorem underscore_not_mem_of_mem_names {w : String} (hw : w ∈ names) : '_' ∉ w.toList := by
  intro hc
  exact absurd (isNameCode_of_mem_names hw '_' hc) (by decide)

theorem trimmed_of_mem_names {w : String} (hw : w ∈ names) : Text.trimmed w = w := by
  rw [Text.trimmed, Text.trim_eq_self (isBlank_of_mem_names hw), String.ofList_toList]

/-! ## Reading a name -/

/-- The text as it is looked up: without the blanks around it, in small letters. -/
def key (s : String) : String := Text.lower (Text.trimmed s)

theorem toList_key (s : String) : (key s).toList = (Text.trim s.toList).map Text.lowerChar := by
  rw [key, Text.lower, Text.trimmed, String.toList_ofList, String.toList_ofList]

theorem isUpperLetter_key (s : String) : ∀ c ∈ (key s).toList, Text.isUpperLetter c = false := by
  intro c hc
  rw [toList_key] at hc
  obtain ⟨d, -, rfl⟩ := List.mem_map.mp hc
  exact Text.isUpperLetter_lowerChar d

theorem trim_key (s : String) : Text.trim (key s).toList = (key s).toList := by
  rw [toList_key, Text.trim_map Text.isBlank_lowerChar, Text.trim_trim]

theorem trimmed_key (s : String) : Text.trimmed (key s) = key s := by
  rw [Text.trimmed, trim_key, String.ofList_toList]

theorem key_key (s : String) : key (key s) = key s := by
  rw [key, trimmed_key, key, Text.lower_lower]

theorem underscore_mem_key_iff {s : String} : '_' ∈ (key s).toList ↔ '_' ∈ s.toList := by
  have hsame : ∀ c, Text.lowerChar c = '_' ↔ c = '_' := fun c =>
    Text.lowerChar_eq_iff (by decide) (by decide)
  have hblank : Text.isBlank '_' = false := by decide
  simp only [toList_key, List.mem_map, hsame, exists_eq_right, Text.mem_trim_iff hblank]

theorem parse_eq_ok_iff {s : String} {c : Charset} :
    parse s = .ok c ↔ IsNamed (key s) c := by
  have hfound : ∀ d, IsNamed (key s) d →
      ((Except.ok d : Except Error Charset) = .ok c ↔ IsNamed (key s) c) := by
    intro d hd
    rw [Except.ok.injEq]
    exact ⟨fun heq => heq ▸ hd, hd.unique⟩
  have hname : ∀ d : Charset,
      Text.sameName d.name (Text.trimmed s) = true ↔ key s = d.name := by
    intro d
    rw [Text.sameName_iff_lower, lower_of_mem_names (mem_names_iff.mpr ⟨d, Or.inl rfl⟩), eq_comm,
      key]
  have hsecond : Text.sameName (Text.trimmed s) "utf8mb3" = true ↔ key s = "utf8mb3" := by
    rw [Text.sameName_iff_lower, lower_of_mem_names (mem_names_iff.mpr ⟨.utf8, Or.inr ⟨rfl, rfl⟩⟩),
      key]
  unfold parse
  simp only
  split
  · rename_i hsame
    exact hfound .utf8 (Or.inr ⟨hsecond.mp hsame, rfl⟩)
  · rename_i hsame
    split
    · rename_i d hd
      have hmatch := List.find?_some hd
      exact hfound d (Or.inl ((hname d).mp hmatch))
    · rename_i hnone
      constructor
      · intro h
        cases h
      · intro h
        rcases h with heq | ⟨heq, -⟩
        · exact absurd ((hname c).mpr heq) (List.find?_eq_none.mp hnone c c.mem_all)
        · exact absurd (hsecond.mpr heq) hsame

theorem isKnown_iff {s : String} : isKnown s = true ↔ key s ∈ names := by
  rw [mem_names_iff]
  simp only [← parse_eq_ok_iff, isKnown]
  cases parse s with
  | ok c => simp [Except.isOk, Except.toBool]
  | error e => simp [Except.isOk, Except.toBool]

end SqlDialect.Charset
