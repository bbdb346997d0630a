import SqlDialect.Mode.Text
import SqlDialect.Proofs.Mode.Word
import SqlDialect.Proofs.Text.Bytes
import SqlDialect.Proofs.Text.Case
import SqlDialect.Proofs.Text.Split

/-!
# Written lists of flags

The names of the flags are made of capital letters, digits and underscores, no
two are equal and none is `DEFAULT`. A list that is joined from others has the
items of all of them (`items_intercalate`), and the only item of a name is that name.
Cutting a written list at its commas therefore gives the names back
(`items_names`), and reading it gives the flags back, with or without a platform
(`parseWith_names`).
-/

namespace SqlDialect

/-! ## The names of the flags -/

namespace ModeFlag

/-- The characters of the names: capital letters, digits and underscores. -/
def isNameChar (c : Char) : Bool := Text.isUpperLetter c || Text.isDigit c || c == '_'

theorem isNameChar_iff {c : Char} :
    isNameChar c = true ↔
      (0x41 ≤ c.toNat ∧ c.toNat ≤ 0x5A) ∨ (0x30 ≤ c.toNat ∧ c.toNat ≤ 0x39) ∨ c = '_' := by
  simp [isNameChar, Text.isUpperLetter, Text.isDigit, or_assoc]

theorem isBlank_of_nameChar {c : Char} (h : isNameChar c = true) : Text.isBlank c = false := by
  rcases isNameChar_iff.mp h with hupper | hdigit | rfl
  · exact Text.isBlank_of_visible (by omega) (by omega)
  · exact Text.isBlank_of_visible (by omega) (by omega)
  · decide

theorem upperChar_of_nameChar {c : Char} (h : isNameChar c = true) : Text.upperChar c = c := by
  have hcapital : Text.isLowerLetter c = false := by
    simp only [Text.isLowerLetter, Bool.and_eq_false_iff, decide_eq_false_iff_not]
    rcases isNameChar_iff.mp h with hupper | hdigit | rfl
    · omega
    · omega
    · decide
  simp [Text.upperChar, hcapital]

theorem upper_of_nameChars {s : String} (h : ∀ c ∈ s.toList, isNameChar c = true) :
    Text.upper s = s := by
  have hmap : s.toList.map Text.upperChar = s.toList.map id :=
    List.map_congr_left fun c hc => upperChar_of_nameChar (h c hc)
  rw [Text.upper, hmap, List.map_id, String.ofList_toList]

def isNameCode (n : Nat) : Bool :=
  (0x41 ≤ n && n ≤ 0x5A) || (0x30 ≤ n && n ≤ 0x39) || n == 0x5F

theorem nameChar_of_bytes {s : String} (h : (Text.bytes s).all (isNameCode ·.toNat) = true) :
    ∀ c ∈ s.toList, isNameChar c = true := by
  have hascii : ∀ n, isNameCode n = true → n < 0x80 := by
    intro n hn
    simp only [isNameCode, Bool.or_eq_true, Bool.and_eq_true, decide_eq_true_eq, beq_iff_eq] at hn
    omega
  intro c hc
  have hcode := Text.forall_toNat_of_bytes hascii h c hc
  simp only [isNameCode, Bool.or_eq_true, Bool.and_eq_true, decide_eq_true_eq, beq_iff_eq] at hcode
  rw [isNameChar_iff]
  rcases hcode with (hupper | hdigit) | hunderscore
  · exact Or.inl hupper
  · exact Or.inr (Or.inl hdigit)
  · exact Or.inr (Or.inr (Char.toNat_inj.mp hunderscore))

theorem nameChar_of_mem_name {f : ModeFlag} : ∀ c ∈ f.name.toList, isNameChar c = true := by
  have hall : (all.all fun f => (Text.bytes f.name).all (isNameCode ·.toNat)) = true := by
    decide +kernel
  exact nameChar_of_bytes (List.all_eq_true.mp hall f f.mem_all)

theorem name_inj {f g : ModeFlag} (h : f.name = g.name) : f = g := by
  have hnodup : (all.map name).Nodup := by decide +kernel
  have hat : ∀ f : ModeFlag, (all.map name)[f.index]? = some f.name := fun f => by
    rw [List.getElem?_map, f.getElem?_index, Option.map_some]
  have hlt : f.index < (all.map name).length := by
    rw [List.length_map]
    exact f.index_lt
  exact index_inj.mp ((List.getElem?_inj hlt hnodup).mp (by rw [hat f, hat g, h]))

theorem name_ne_default (f : ModeFlag) : f.name ≠ "DEFAULT" := by
  have hnone : "DEFAULT" ∉ all.map name := by decide +kernel
  exact fun h => hnone (h ▸ List.mem_map_of_mem f.mem_all)

theorem name_toList_ne_nil (f : ModeFlag) : f.name.toList ≠ [] := by
  have hnone : "" ∉ all.map name := by decide +kernel
  intro h
  exact hnone (String.toList_eq_nil_iff.mp h ▸ List.mem_map_of_mem f.mem_all)

theorem upper_name (f : ModeFlag) : Text.upper f.name = f.name :=
  upper_of_nameChars nameChar_of_mem_name

theorem trim_name (f : ModeFlag) : Text.trim f.name.toList = f.name.toList :=
  Text.trim_eq_self fun c hc => isBlank_of_nameChar (nameChar_of_mem_name c hc)

/-- A flag is found by what is its name up to case and blanks, and by nothing else. -/
theorem named?_eq_some_iff {name : String} {f : ModeFlag} :
    named? name = some f ↔ Text.sameName f.name (Text.trimmed name) = true := by
  constructor
  · intro h
    simpa using List.find?_some h
  · intro h
    rw [named?]
    cases hfind : all.find? fun g => Text.sameName g.name (Text.trimmed name) with
    | none => exact absurd h (List.find?_eq_none.mp hfind f f.mem_all)
    | some g =>
        have hsame : Text.sameName g.name (Text.trimmed name) = true := by
          simpa using List.find?_some hfind
        rw [Text.sameName_iff, upper_name] at h hsame
        rw [name_inj (hsame.trans h.symm)]

theorem named?_name (f : ModeFlag) : named? f.name = some f := by
  rw [named?_eq_some_iff, Text.trimmed, f.trim_name, String.ofList_toList]
  exact Text.sameName_iff.mpr rfl

end ModeFlag

namespace Mode

/-! ## Written lists of flags -/

theorem itemWord_name (default : Option Mode) (f : ModeFlag) :
    itemWord default f.name = .ok f.bit := by
  unfold itemWord
  rw [if_neg f.name_ne_default, ModeFlag.parse, f.named?_name]

/-- The item that a piece of a list is, in capital letters. -/
def item? (piece : List Char) : Option String :=
  if (Text.trim piece).isEmpty then none else some (Text.upper (String.ofList (Text.trim piece)))

theorem items_eq (s : String) : items s = (Text.fields (· == ',') s.toList).filterMap item? := by
  rw [items, List.filterMap_map]
  rfl

theorem item?_eq_some {piece : List Char} {name : String} (h : Text.trim piece = name.toList)
    (hname : name ≠ "") : item? piece = some (Text.upper name) := by
  have hne : ¬name.toList.isEmpty = true := fun hnil =>
    hname (String.toList_eq_nil_iff.mp (List.isEmpty_iff.mp hnil))
  rw [item?, h, if_neg hne, String.ofList_toList]

theorem items_append (a b : String) : items (a ++ "," ++ b) = items a ++ items b := by
  have hlist : (a ++ "," ++ b).toList = a.toList ++ ',' :: b.toList := by simp
  rw [items_eq, items_eq, items_eq, hlist, Text.fields_append (by decide), List.filterMap_append]

theorem items_intercalate (pieces : List String) :
    items (",".intercalate pieces) = pieces.flatMap items := by
  induction pieces with
  | nil => rfl
  | cons p pieces ih =>
      cases pieces with
      | nil => simp
      | cons q rest =>
          rw [String.intercalate_cons_cons, items_append, ih]
          rfl

theorem items_name (f : ModeFlag) : items f.name = [f.name] := by
  have hcomma : ',' ∉ f.name.toList := fun hmem =>
    absurd (ModeFlag.nameChar_of_mem_name _ hmem) (by decide)
  have hne : f.name ≠ "" := mt String.toList_eq_nil_iff.mpr f.name_toList_ne_nil
  rw [items_eq, Text.fields_of_no_sep (Text.no_sep_of_not_mem hcomma),
    List.filterMap_cons_some (item?_eq_some f.trim_name hne), f.upper_name, List.filterMap_nil]

/-- Cutting a written list of flags gives their names back. -/
theorem items_names (fs : List ModeFlag) :
    items (",".intercalate (fs.map ModeFlag.name)) = fs.map ModeFlag.name := by
  rw [items_intercalate]
  induction fs with
  | nil => rfl
  | cons f fs ih => rw [List.map_cons, List.flatMap_cons, items_name, ih, List.singleton_append]

theorem readItems_names (default : Option Mode) (fs : List ModeFlag) (w : ModeWord) :
    readItems default (fs.map ModeFlag.name) w = .ok (w.insertAll fs) := by
  induction fs generalizing w with
  | nil => rfl
  | cons f fs ih =>
      rw [List.map_cons, readItems, itemWord_name]
      exact ih (w ||| f.bit)

/-- A written list of flags reads as these flags, whatever `DEFAULT` means. -/
theorem parseWith_names (default : Option Mode) (fs : List ModeFlag) :
    parseWith default (",".intercalate (fs.map ModeFlag.name)) = .ok (ofFlags fs) := by
  rw [parseWith, items_names, readItems_names]
  rfl

end Mode

end SqlDialect
