import Mathlib.Data.List.Nodup
import SqlDialect.Proofs.Text.Bytes
import SqlDialect.Proofs.Text.Words
import SqlDialect.Rendering

/-!
# Names of data types

A text names a type when its words are those of the type's name, up to case
(`DataType.Names`). The names are in capital letters with single spaces between their
words, and no two types share one, so a text names one type at most, although some names
begin with others (`LONG`, `LONG VARCHAR`). The search for the first type that matches
therefore finds the type that is named (`DataType.parse_eq_ok_iff`), in whatever order
the types are listed.

A type is written under its own name or under the canonical one. Both can be read, and
what is read is written in the same way again (`DataType.exists_parse_renderType`).
-/

namespace SqlDialect.DataType

/-! ## The names -/

/-- The words of the text, with single spaces between them, are the name of the type up
to case. -/
def Names (s : String) (t : DataType) : Prop :=
  ∃ ws, Text.HasWords s.toList ws ∧ Text.sameName (Text.spaced ws) t.spelling = true

theorem mem_all (t : DataType) : t ∈ all := by
  cases t <;> decide

theorem spelling_injective {t u : DataType} (h : t.spelling = u.spelling) : t = u := by
  have hnodup : (all.map spelling).Nodup := by decide +kernel
  exact List.inj_on_of_nodup_map hnodup t.mem_all u.mem_all h

theorem upper_spelling (t : DataType) : Text.upper t.spelling = t.spelling := by
  have hall : (all.all fun t => (Text.bytes t.spelling).all fun b => decide (b.toNat < 0x61))
      = true := by
    decide +kernel
  refine Text.upper_eq_self fun c hc => ?_
  have hcode := Text.forall_toNat_of_bytes (P := fun n => decide (n < 0x61))
    (fun n hn => Nat.lt_trans (of_decide_eq_true hn) (by decide))
    (List.all_eq_true.mp hall t t.mem_all) c hc
  rw [Text.isLowerLetter, decide_eq_false (Nat.not_le_of_lt (of_decide_eq_true hcode)),
    Bool.false_and]

theorem singleSpaced_spelling (t : DataType) : Text.singleSpaced t.spelling = t.spelling := by
  have hall : (all.all fun t => Text.joinWords t.spelling.toList == t.spelling.toList) = true := by
    decide +kernel
  rw [Text.singleSpaced, beq_iff_eq.mp (List.all_eq_true.mp hall t t.mem_all), String.ofList_toList]

theorem eq_of_sameName_spelling {t u : DataType}
    (h : Text.sameName t.spelling u.spelling = true) : t = u := by
  rw [Text.sameName_iff, upper_spelling, upper_spelling] at h
  exact spelling_injective h

/-! ## Reading a name -/

theorem names_iff {s : String} {t : DataType} :
    Names s t ↔ Text.sameName (Text.singleSpaced s) t.spelling = true := by
  constructor
  · rintro ⟨ws, hwords, hsame⟩
    rw [hwords.singleSpaced_eq]
    exact hsame
  · intro hsame
    obtain ⟨ws, hwords⟩ := Text.exists_hasWords s.toList
    rw [hwords.singleSpaced_eq] at hsame
    exact ⟨ws, hwords, hsame⟩

theorem Names.unique {s : String} {t u : DataType} (ht : Names s t) (hu : Names s u) : t = u := by
  rw [names_iff, Text.sameName_iff] at ht hu
  exact eq_of_sameName_spelling (Text.sameName_iff.mpr (ht.symm.trans hu))

theorem names_spelling (t : DataType) : Names t.spelling t := by
  rw [names_iff, singleSpaced_spelling, Text.sameName_iff]

theorem names_congr {s s' : String} (h : Text.SameWords s s') {t : DataType} :
    Names s t ↔ Names s' t := by
  have hupper := Text.sameName_iff.mp h.sameName_singleSpaced
  rw [names_iff, names_iff, Text.sameName_iff, Text.sameName_iff, hupper]

/-- Reading finds the type that is named, or refuses the text as it was given. -/
theorem parse_cases (s : String) :
    (∃ t, Names s t ∧ parse s = .ok t) ∨ (∀ t, ¬Names s t) ∧ parse s = .error s := by
  unfold parse
  split
  · rename_i t hfind
    have hmatch := List.find?_some hfind
    refine Or.inl ⟨t, ?_, rfl⟩
    rw [names_iff, Text.sameName_comm]
    exact hmatch
  · rename_i hfind
    refine Or.inr ⟨fun t hnames => ?_, rfl⟩
    rw [names_iff, Text.sameName_comm] at hnames
    exact List.find?_eq_none.mp hfind t t.mem_all hnames

theorem parse_eq_ok_iff {s : String} {t : DataType} : parse s = .ok t ↔ Names s t := by
  rcases parse_cases s with ⟨u, hu, hparse⟩ | ⟨hnone, hparse⟩
  · rw [hparse, Except.ok.injEq]
    exact ⟨fun heq => heq ▸ hu, hu.unique⟩
  · rw [hparse]
    constructor
    · intro h
      cases h
    · intro h
      exact absurd h (hnone t)

theorem parse_eq_error_iff {s e : String} : parse s = .error e ↔ e = s ∧ ∀ t, ¬Names s t := by
  rcases parse_cases s with ⟨u, hu, hparse⟩ | ⟨hnone, hparse⟩
  · rw [hparse]
    constructor
    · intro h
      cases h
    · intro h
      exact absurd hu (h.2 u)
  · rw [hparse, Except.error.injEq, eq_comm]
    exact ⟨fun h => ⟨h, hnone⟩, fun h => h.1⟩

/-! ## Writing a type -/

theorem canonical_canonical (realAsFloat : Bool) (t : DataType) :
    (t.canonical realAsFloat).canonical realAsFloat = t.canonical realAsFloat := by
  cases t <;> cases realAsFloat <;> rfl

/-- What is written is the name of a type that is written so. -/
theorem exists_renderType_eq (x : Settings) (t : DataType) :
    ∃ u : DataType, x.renderType t = u.spelling ∧ x.renderType u = u.spelling := by
  unfold Settings.renderType
  cases x.canonicalizeTypes with
  | true =>
      simp only [if_true]
      exact ⟨_, rfl, by rw [canonical_canonical]⟩
  | false => exact ⟨t, rfl, rfl⟩

theorem exists_parse_renderType (x : Settings) (t : DataType) :
    ∃ u, parse (x.renderType t) = .ok u ∧ x.renderType u = x.renderType t := by
  obtain ⟨u, ht, hu⟩ := exists_renderType_eq x t
  refine ⟨u, ?_, by rw [ht, hu]⟩
  rw [ht, parse_eq_ok_iff]
  exact u.names_spelling

/-! ## The headline theorem -/

/-- **Type names go by their words.** Every text has one list of words, and it is read
as a type exactly when these, with single spaces between them, are the name of the type
up to case; otherwise the text is refused as it was given. So texts with the same words
are read alike, and what is written for a type under any settings is read as a type for
which the same is written. -/
theorem parse_by_words :
    (∀ s : String, ∃! ws, Text.HasWords s.toList ws)
    ∧ (∀ s t, parse s = .ok t ↔ Names s t)
    ∧ (∀ s t u, Names s t → Names s u → t = u)
    ∧ (∀ s s', Text.SameWords s s' → ∀ t, parse s = .ok t ↔ parse s' = .ok t)
    ∧ (∀ t : DataType, parse t.spelling = .ok t)
    ∧ (∀ s e, parse s = .error e ↔ e = s ∧ ∀ t, ¬Names s t)
    ∧ (∀ (x : Settings) (t : DataType),
      ∃ u, parse (x.renderType t) = .ok u ∧ x.renderType u = x.renderType t) := by
  refine ⟨?_, fun s t => parse_eq_ok_iff, fun s t u => Names.unique, ?_,
    fun t => parse_eq_ok_iff.mpr t.names_spelling, fun s e => parse_eq_error_iff,
    exists_parse_renderType⟩
  · intro s
    obtain ⟨ws, hwords⟩ := Text.exists_hasWords s.toList
    exact ⟨ws, hwords, fun vs hvs => hvs.words_eq.symm.trans hwords.words_eq⟩
  · intro s s' hsame t
    rw [parse_eq_ok_iff, parse_eq_ok_iff]
    exact names_congr hsame

/-- An em space, a tab and small letters make no difference, a space that is missing does. -/
theorem parse_by_words_long_varchar :
    Text.HasWords "\u2003Long \tvarchar".toList ["Long".toList, "varchar".toList]
    ∧ Text.SameWords "\u2003Long \tvarchar" "LONG VARCHAR"
    ∧ parse "\u2003Long \tvarchar" = .ok .longVarchar
    ∧ ¬Names "\u2003Long \tvarchar" .long
    ∧ parse "longvarchar " = .error "longvarchar "
    ∧ ∀ t, ¬Names "longvarchar " t := by
  obtain ⟨-, hok, hunique, halike, hself, herror, -⟩ := parse_by_words
  have hwords : Text.HasWords "\u2003Long \tvarchar".toList ["Long".toList, "varchar".toList] :=
    Text.hasWords_iff.mpr (by decide +kernel)
  have hsame : Text.SameWords "\u2003Long \tvarchar" "LONG VARCHAR" :=
    ⟨_, ["LONG".toList, "VARCHAR".toList], hwords, Text.hasWords_iff.mpr (by decide +kernel),
      by decide +kernel⟩
  have hread : parse "\u2003Long \tvarchar" = .ok .longVarchar :=
    (halike _ _ hsame .longVarchar).mpr (hself .longVarchar)
  have hrefused : parse "longvarchar " = .error "longvarchar " := rfl
  refine ⟨hwords, hsame, hread, ?_, hrefused, ((herror "longvarchar " _).mp hrefused).2⟩
  intro hlong
  exact absurd (hunique _ _ _ hlong ((hok _ _).mp hread)) (by decide)

end SqlDialect.DataType
