import SqlDialect.Json.Reader
import SqlDialect.Proofs.Json.Literal

/-!
# Flat objects

The texts of an object whose values have no parts, as a grammar: a value is
`null`, a truth value or a quoted text (`Json.Plain`), a member has any blanks
around its key and its value (`Json.Member`), and commas stand between the
members (`Json.Members`).

Every such text is read as the members it was made of, in their order
(`Json.read?_document`). The reader spends one unit of fuel on a member, and a
member has at least one character, so the fuel never runs out.
-/

namespace SqlDialect.Json

/-! ## Blanks -/

/-- Nothing but what may stand between two tokens. -/
def Blank (cs : List Char) : Prop := ∀ c ∈ cs, isSpace c = true

instance (cs : List Char) : Decidable (Blank cs) :=
  decidable_of_iff (cs.all isSpace = true) List.all_eq_true

theorem skipSpace_append {gap : List Char} (hgap : Blank gap) (rest : List Char) :
    skipSpace (gap ++ rest) = skipSpace rest :=
  List.dropWhile_append_of_pos hgap

theorem skipSpace_cons {c : Char} (hc : isSpace c = false) (rest : List Char) :
    skipSpace (c :: rest) = c :: rest := by
  rw [skipSpace, List.dropWhile_cons_of_neg (by simp [hc])]

theorem skipSpace_token {gap : List Char} (hgap : Blank gap) {c : Char} (hc : isSpace c = false)
    (rest : List Char) : skipSpace (gap ++ c :: rest) = c :: rest := by
  rw [skipSpace_append hgap, skipSpace_cons hc]

theorem skipSpace_blank {gap : List Char} (hgap : Blank gap) : skipSpace gap = [] := by
  have hskip := skipSpace_append hgap []
  rwa [List.append_nil] at hskip

/-! ## The grammar -/

/-- The text of a value that has no parts. -/
inductive Plain : Json → List Char → Prop
  | null : Plain .null ['n', 'u', 'l', 'l']
  | true : Plain (.bool true) ['t', 'r', 'u', 'e']
  | false : Plain (.bool false) ['f', 'a', 'l', 's', 'e']
  | string (s : String) : Plain (.string (some s)) (quoted s).toList

/-- The text of one member, up to the comma or the brace after it. -/
inductive Member : Option String × Json → List Char → Prop
  | mk {key : String} {value : Json} {text lead before after trail : List Char} :
      Blank lead → Blank before → Blank after → Blank trail → Plain value text →
      Member (some key, value)
        (lead ++ ((quoted key).toList ++ (before ++ ':' :: (after ++ (text ++ trail)))))

/-- The text of the members between the braces; there is at least one. -/
inductive Members : List (Option String × Json) → List Char → Prop
  | last {m : Option String × Json} {cs : List Char} : Member m cs → Members [m] cs
  | cons {m : Option String × Json} {cs : List Char} {ms : List (Option String × Json)}
      {ds : List Char} : Member m cs → Members ms ds → Members (m :: ms) (cs ++ ',' :: ds)

/-- The text of an object that has only values without parts. -/
inductive Object : List (Option String × Json) → List Char → Prop
  | empty {gap : List Char} : Blank gap → Object [] ('\x7b' :: (gap ++ ['\x7d']))
  | members {ms : List (Option String × Json)} {cs : List Char} :
      Members ms cs → Object ms ('\x7b' :: (cs ++ ['\x7d']))

/-- A document: an object with any blanks around it. -/
inductive Document : List (Option String × Json) → String → Prop
  | mk {ms : List (Option String × Json)} {lead cs trail : List Char} :
      Blank lead → Object ms cs → Blank trail → Document ms (String.ofList (lead ++ (cs ++ trail)))

/-! ## Reading -/

theorem readValue_plain {value : Json} {text : List Char} (hvalue : Plain value text) (fuel : Nat)
    {gap : List Char} (hgap : Blank gap) (rest : List Char) :
    readValue (fuel + 1) (gap ++ (text ++ rest)) = some (value, rest) := by
  cases hvalue with
  | null =>
      rw [readValue, List.cons_append, skipSpace_token hgap (by decide)]
      rfl
  | true =>
      rw [readValue, List.cons_append, skipSpace_token hgap (by decide)]
      rfl
  | false =>
      rw [readValue, List.cons_append, skipSpace_token hgap (by decide)]
      rfl
  | string s =>
      rw [readValue, toList_quoted, List.cons_append, skipSpace_token hgap (by decide),
        List.append_assoc, List.singleton_append]
      simp only [readLiteral_quoted, Option.map_some]

section

variable {m : Option String × Json} {ms : List (Option String × Json)} {cs : List Char}

/-- What reading one member leaves to do. -/
theorem readMembers_member (hm : Member m cs) (fuel : Nat) {c : Char} (hc : isSpace c = false)
    (rest : List Char) :
    readMembers (fuel + 2) (cs ++ c :: rest)
      = if c = ',' then (readMembers (fuel + 1) rest).map fun r => (m :: r.1, r.2)
        else if c = '\x7d' then some ([m], rest)
        else none := by
  rcases hm with ⟨hlead, hbefore, hafter, htrail, hvalue⟩
  simp only [List.append_assoc, List.cons_append]
  rw [readMembers, toList_quoted, List.cons_append, skipSpace_token hlead (by decide)]
  simp only [List.append_assoc, List.cons_append, List.nil_append, readLiteral_quoted,
    Option.bind_some]
  rw [skipSpace_token hbefore (by decide)]
  simp only [readValue_plain hvalue fuel hafter, Option.bind_some, skipSpace_token htrail hc]
  by_cases hcomma : c = ','
  · subst hcomma
    exact (if_pos rfl).symm
  by_cases hbrace : c = '\x7d'
  · subst hbrace
    exact ((if_neg hcomma).trans (if_pos rfl)).symm
  · rw [if_neg hcomma, if_neg hbrace]
    split <;> simp_all

theorem readMembers_members (hms : Members ms cs) (rest : List Char) :
    ∀ {fuel : Nat}, ms.length < fuel →
      readMembers fuel (cs ++ '\x7d' :: rest) = some (ms, rest) := by
  induction hms with
  | last hm =>
      intro fuel hfuel
      obtain ⟨n, rfl⟩ : ∃ n, fuel = n + 2 := Nat.exists_eq_add_of_le' hfuel
      rw [readMembers_member hm n (by decide), if_neg (by decide), if_pos rfl]
  | @cons m cs ms ds hm hms ih =>
      intro fuel hfuel
      rw [List.length_cons] at hfuel
      obtain ⟨n, rfl⟩ : ∃ n, fuel = n + 2 := Nat.exists_eq_add_of_le' (by omega)
      rw [List.append_assoc, List.cons_append, readMembers_member hm n (by decide), if_pos rfl,
        ih (show ms.length < n + 1 by omega), Option.map_some]

theorem Member.length_pos (hm : Member m cs) : 0 < cs.length := by
  rcases hm with ⟨-, -, -, -, -⟩
  simp only [List.length_append, List.length_cons]
  omega

theorem Members.length_le (hms : Members ms cs) : ms.length ≤ cs.length := by
  induction hms with
  | last hm => exact hm.length_pos
  | cons hm hms ih =>
      have hpos := hm.length_pos
      simp only [List.length_append, List.length_cons]
      omega

theorem Member.skipSpace_eq (hm : Member m cs) (rest : List Char) :
    ∃ tail, skipSpace (cs ++ rest) = '"' :: tail := by
  rcases hm with ⟨hlead, -, -, -, -⟩
  rw [List.append_assoc, toList_quoted, List.cons_append, List.cons_append,
    skipSpace_token hlead (by decide)]
  exact ⟨_, rfl⟩

/-- The members do not begin with the brace that closes an empty object. -/
theorem Members.skipSpace_eq (hms : Members ms cs) (rest : List Char) :
    ∃ tail, skipSpace (cs ++ rest) = '"' :: tail := by
  cases hms with
  | last hm => exact hm.skipSpace_eq rest
  | cons hm hms =>
      rw [List.append_assoc]
      exact hm.skipSpace_eq _

theorem readValue_object (hms : Object ms cs) {fuel : Nat} (hfuel : cs.length ≤ fuel)
    {gap : List Char} (hgap : Blank gap) (rest : List Char) :
    readValue (fuel + 1) (gap ++ (cs ++ rest)) = some (.object ms, rest) := by
  rw [readValue]
  cases hms with
  | empty hinner =>
      rw [List.cons_append, skipSpace_token hgap (by decide), List.append_assoc,
        List.singleton_append]
      simp only [skipSpace_token hinner (show isSpace '\x7d' = false by decide)]
  | members hms =>
      rw [List.cons_append, skipSpace_token hgap (by decide), List.append_assoc,
        List.singleton_append]
      obtain ⟨tail, htail⟩ := hms.skipSpace_eq ('\x7d' :: rest)
      have hlength := hms.length_le
      simp only [List.length_cons, List.length_append] at hfuel
      simp only [htail, readMembers_members hms rest (show _ < fuel by omega), Option.map_some]
      rfl

end

theorem read?_document {ms : List (Option String × Json)} {text : String}
    (hdoc : Document ms text) : read? text = some (.object ms) := by
  rcases hdoc with ⟨hlead, hobject, htrail⟩
  rw [read?]
  simp only [String.toList_ofList]
  rw [readValue_object hobject (by simp only [List.length_append]; omega) hlead]
  simp only [skipSpace_blank htrail, List.isEmpty_nil, if_true]

end SqlDialect.Json
