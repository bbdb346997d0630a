import SqlDialect.Proofs.Platform.Words
import SqlDialect.Proofs.Text.Words

/-!
# Every spelling of a name

A platform looks a name up under one key: trimmed or with single spaces between
its words, in capital letters, or for a variable without `@@` and in small
letters. `lookups_find_resolved` says that this amounts to a search that forgives
the case among the names that were resolved, whatever text is looked up.

Two things go into it. The entries of the tables are in the letters of their keys
(`Platform.Shipped.spelling_mem_iff`), and what was resolved has no second name
that differs in case only: variables are kept by name, and a keyword that is also
reserved is listed among the reserved words alone.
-/

namespace SqlDialect

namespace Platform

/-! ## Keys -/

/-- The name without the `@@` that may stand before it. -/
def dropSigil (name : String) : String :=
  if ['@', '@'].isPrefixOf name.toList then String.ofList (name.toList.drop 2) else name

theorem variableKey_eq (s : String) :
    variableKey s = NameKind.systemVariable.spelling (dropSigil (Text.trimmed s)) := by
  rw [variableKey, dropSigil, Text.trimmed, String.toList_ofList, NameKind.spelling]
  split
  · rename_i rest htrim
    rw [htrim, if_pos (by simp)]
    rfl
  · rename_i hnone
    rw [if_neg]
    intro hsigil
    obtain ⟨rest, hrest⟩ := List.isPrefixOf_iff_prefix.mp hsigil
    exact hnone rest hrest.symm

/-- Looking up a phrase finds the names with its words. -/
theorem Shipped.phrase_mem_iff {p : Platform} (hp : p.Shipped) (kind : NameKind) {s : String} :
    kind.spelling (Text.singleSpaced s) ∈ p.capabilities.names kind ↔
      ∃ ws, Text.HasWords s.toList ws
        ∧ ∃ name ∈ p.capabilities.names kind, Text.sameName name (Text.spaced ws) = true := by
  rw [hp.spelling_mem_iff kind]
  constructor
  · rintro ⟨name, hname, hsame⟩
    obtain ⟨ws, hwords⟩ := Text.exists_hasWords s.toList
    rw [hwords.singleSpaced_eq] at hsame
    exact ⟨ws, hwords, name, hname, hsame⟩
  · rintro ⟨ws, hwords, name, hname, hsame⟩
    rw [← hwords.singleSpaced_eq] at hsame
    exact ⟨name, hname, hsame⟩

/-! ## What was resolved -/

theorem Shipped.exists_layers {p : Platform} (hp : p.Shipped) :
    ∃ layers, Catalog.shipped.layers p.family p.id = .ok layers
      ∧ p.capabilities = Capabilities.resolve layers := by
  obtain ⟨f, v, q, c, hbuild, rfl⟩ := hp
  obtain ⟨layers, m, hlayers, -, rfl⟩ := build_eq_ok hbuild
  exact ⟨layers, hlayers, rfl⟩

theorem Shipped.nodup_variables {p : Platform} (hp : p.Shipped) :
    (p.capabilities.names .systemVariable).Nodup := by
  obtain ⟨layers, -, hlayers⟩ := hp.exists_layers
  rw [hlayers]
  exact Capabilities.nodup_variables_stack layers

theorem Shipped.not_reserved_of_keyword {p : Platform} (hp : p.Shipped) {w : String}
    (hw : w ∈ p.capabilities.keywords) : w ∉ p.capabilities.reserved := by
  obtain ⟨layers, -, hlayers⟩ := hp.exists_layers
  rw [hlayers] at hw ⊢
  have hkept : w ∉ (Capabilities.stack layers).reserved := by
    simpa using (List.mem_filter.mp hw).2
  exact hkept

theorem Shipped.variableNamed?_eq_some_iff {p : Platform} (hp : p.Shipped) {s : String}
    {v : Variable} :
    p.variableNamed? s = some v ↔
      v ∈ p.capabilities.systemVariables
        ∧ Text.sameName v.name (dropSigil (Text.trimmed s)) = true := by
  rw [variableNamed?, Capabilities.variableNamed?, variableKey_eq,
    Capabilities.find?_eq_some_iff_of_nodup hp.nodup_variables,
    ← NameKind.systemVariable.spelling_eq_iff]
  refine and_congr_right fun hv => ?_
  rw [hp.spelling_name .systemVariable (List.mem_map_of_mem hv)]

/-! ## The headline theorem -/

/-- **Spelling does not matter.** Up to case, a text is a reserved word or a keyword
when, trimmed, it is listed; an operator or a preparable statement when its words, with
single spaces between them, are one that was resolved; and it names the one variable
that is called so, `@@` or not. Both lists of words rise strictly in the order of
bytes, and no word of one is a word of the other up to case. -/
theorem lookups_find_resolved {p : Platform} (hp : p.Shipped) (s : String) :
    (p.isReserved s = true ↔
      ∃ w ∈ p.reservedWords, Text.sameName w (Text.trimmed s) = true)
    ∧ (p.isKeyword s = true ↔
      ∃ w, (w ∈ p.reservedWords ∨ w ∈ p.nonReservedWords)
        ∧ Text.sameName w (Text.trimmed s) = true)
    ∧ (p.hasOperator s = true ↔
      ∃ ws, Text.HasWords s.toList ws
        ∧ ∃ o ∈ p.capabilities.operators, Text.sameName o (Text.spaced ws) = true)
    ∧ (p.isPreparable s = true ↔
      ∃ ws, Text.HasWords s.toList ws
        ∧ ∃ o ∈ p.capabilities.preparable, Text.sameName o (Text.spaced ws) = true)
    ∧ (∀ v, p.variableNamed? s = some v ↔
      v ∈ p.capabilities.systemVariables
        ∧ Text.sameName v.name (dropSigil (Text.trimmed s)) = true)
    ∧ (∀ v ∈ p.capabilities.systemVariables, ∀ w ∈ p.capabilities.systemVariables,
      Text.sameName v.name w.name = true → v = w)
    ∧ (p.reservedWords.Pairwise fun a b => Text.bytes a < Text.bytes b)
    ∧ (p.nonReservedWords.Pairwise fun a b => Text.bytes a < Text.bytes b)
    ∧ ∀ w ∈ p.reservedWords, ∀ u ∈ p.nonReservedWords, Text.sameName w u = false := by
  refine ⟨hp.isReserved_iff, ?_, ?_, ?_, fun v => hp.variableNamed?_eq_some_iff, ?_,
    (pairwise_sortWords _).imp Text.bytes_lt_bytes, (pairwise_sortWords _).imp Text.bytes_lt_bytes,
    ?_⟩
  · have hkeyword := hp.spelling_mem_iff .keyword (s := Text.trimmed s)
    have hreserved := hp.spelling_mem_iff .reserved (s := Text.trimmed s)
    rw [isKeyword, Bool.or_eq_true, List.contains_iff_mem, List.contains_iff_mem]
    simp only [mem_reservedWords, mem_nonReservedWords, or_and_right, exists_or]
    exact or_congr hreserved hkeyword
  · rw [hasOperator, List.contains_iff_mem]
    exact hp.phrase_mem_iff .operator
  · rw [isPreparable, List.contains_iff_mem]
    exact hp.phrase_mem_iff .preparable
  · intro v hv w hw hsame
    have hname : v.name = w.name := by
      rw [← NameKind.systemVariable.spelling_eq_iff,
        hp.spelling_name .systemVariable (List.mem_map_of_mem hv),
        hp.spelling_name .systemVariable (List.mem_map_of_mem hw)] at hsame
      exact hsame
    exact List.inj_on_of_nodup_map hp.nodup_variables hv hw hname
  · intro w hw u hu
    rw [mem_reservedWords] at hw
    rw [mem_nonReservedWords] at hu
    refine Bool.eq_false_iff.mpr fun hsame => ?_
    have heq : w = u := by
      rw [← NameKind.reserved.spelling_eq_iff, hp.spelling_name .reserved hw] at hsame
      exact hsame.trans (hp.spelling_name .keyword hu)
    exact hp.not_reserved_of_keyword hu (heq ▸ hw)

/-- In MySQL 8.0 an em space before `Select`, a tab and an em space in `is not` and a
line break after `@@Port` are forgiven, and so are their letters. -/
theorem lookups_find_resolved_select_port :
    ∃ p, build Catalog.shipped .mysql ⟨8, some 0, none⟩ = .ok p ∧ p.Shipped
      ∧ p.isReserved "\u2003Select" = true
      ∧ p.hasOperator "is\t\u2003Not " = true
      ∧ p.variableNamed? "@@Port\n"
        = some (.readOnly (.settable "port" .unsignedInt .global "3306")) := by
  obtain ⟨p, hbuild⟩ := build_shipped (f := .mysql) rfl ⟨8, some 0, none⟩
  have hp : p.Shipped := ⟨_, _, p, p.current, hbuild, rfl⟩
  obtain ⟨layers, hlayers, hcapabilities⟩ := build_capabilities hbuild
  cases hlayers
  obtain ⟨hreserved, -⟩ := lookups_find_resolved hp "\u2003Select"
  obtain ⟨-, -, hoperator, -⟩ := lookups_find_resolved hp "is\t\u2003Not "
  obtain ⟨-, -, -, -, hvariable, -⟩ := lookups_find_resolved hp "@@Port\n"
  have hwords : Text.HasWords "is\t\u2003Not ".toList ["is".toList, "Not".toList] :=
    Text.hasWords_iff.mpr (by decide +kernel)
  refine ⟨p, hbuild, hp, hreserved.mpr ⟨"SELECT", ?_, by decide +kernel⟩,
    hoperator.mpr ⟨_, hwords, "IS NOT", ?_, by decide +kernel⟩,
    (hvariable _).mpr ⟨?_, by decide +kernel⟩⟩
  · rw [mem_reservedWords, hcapabilities]
    decide +kernel
  · rw [hcapabilities]
    decide +kernel
  · rw [hcapabilities]
    decide +kernel

end Platform

end SqlDialect
