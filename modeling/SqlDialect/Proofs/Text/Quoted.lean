import SqlDialect.Text.Quoted

/-!
# Reading quoted text back

`readQuoted` reads a quoted text from the front of a longer one: a doubled quote
is one quote, a single quote ends the text, and where the backslash escapes, it
stands for the character after it.

A text between quotes is read back whole, whatever follows it, if exactly those
characters are doubled in it that the reader does not take as they stand
(`Doubles`): the quote and, where it escapes, the backslash.

The reader takes a step for every character that was written, doubled or not,
and is then where the next one starts (`readQuotedBody_written`). It therefore
comes to the closing quote just when the text is used up, and the only thing
that could mislead it there is another quote right after it.
-/

namespace SqlDialect.Text

/-- What stands before the quote that ends the text, and what is left after
it. -/
def readQuotedBody (quote : Char) (escapes : Bool) :
    List Char → Option (List Char × List Char)
  | [] => none
  | [c] => if c = quote then some ([], []) else none
  | c :: d :: rest =>
    if c = quote then
      if d = quote then (readQuotedBody quote escapes rest).map fun (l, r) => (quote :: l, r)
      else some ([], d :: rest)
    else if escapes && c == backslash then
      (readQuotedBody quote escapes rest).map fun (l, r) => (d :: l, r)
    else (readQuotedBody quote escapes (d :: rest)).map fun (l, r) => (c :: l, r)

/-- The quoted text at the front, and what is left after it. -/
def readQuoted (quote : Char) (escapes : Bool) : List Char → Option (List Char × List Char)
  | c :: rest => if c = quote then readQuotedBody quote escapes rest else none
  | [] => none

/-- The characters of `twice` are those that the reader does not take as they
stand. -/
def Doubles (quote : Char) (escapes : Bool) (twice : List Char) : Prop :=
  ∀ c, c ∈ twice ↔ c = quote ∨ escapes = true ∧ c = backslash

variable {quote : Char} {escapes : Bool} {twice : List Char}

/-- A written character is read as that character. -/
theorem readQuotedBody_written (h : Doubles quote escapes twice) (c : Char) (rest : List Char) :
    readQuotedBody quote escapes ((if twice.contains c then [c, c] else [c]) ++ rest)
      = (readQuotedBody quote escapes rest).map fun (l, r) => (c :: l, r) := by
  by_cases hc : c ∈ twice
  · rw [if_pos (List.contains_iff_mem.mpr hc), List.cons_append, List.singleton_append,
      readQuotedBody]
    rcases (h c).mp hc with rfl | ⟨hescapes, rfl⟩
    · rw [if_pos rfl, if_pos rfl]
    · by_cases hquote : backslash = quote
      · rw [if_pos hquote, if_pos hquote, hquote]
      · rw [if_neg hquote, if_pos (by simp [hescapes])]
  · have hquote : c ≠ quote := fun heq => hc ((h c).mpr (Or.inl heq))
    have hescape : ¬(escapes && c == backslash) = true := by
      rw [Bool.and_eq_true, beq_iff_eq]
      exact fun hboth => hc ((h c).mpr (Or.inr hboth))
    rw [if_neg (fun hmem => hc (List.contains_iff_mem.mp hmem)), List.singleton_append]
    cases rest with
    | nil => simp [readQuotedBody, hquote]
    | cons d rest => rw [readQuotedBody, if_neg hquote, if_neg hescape]

theorem readQuotedBody_quote {rest : List Char} (hrest : rest.head? ≠ some quote) :
    readQuotedBody quote escapes (quote :: rest) = some ([], rest) := by
  cases rest with
  | nil => rw [readQuotedBody, if_pos rfl]
  | cons d rest =>
      have hd : d ≠ quote := fun heq => hrest (by rw [List.head?_cons, heq])
      rw [readQuotedBody, if_pos rfl, if_neg hd]

theorem readQuotedBody_doubled (h : Doubles quote escapes twice) {rest : List Char}
    (hrest : rest.head? ≠ some quote) (cs : List Char) :
    readQuotedBody quote escapes (doubled twice cs ++ quote :: rest) = some (cs, rest) := by
  induction cs with
  | nil => exact readQuotedBody_quote hrest
  | cons c cs ih =>
      rw [doubled, List.flatMap_cons, List.append_assoc, readQuotedBody_written h, ← doubled, ih,
        Option.map_some]

theorem length_le_doubled (twice cs : List Char) : cs.length ≤ (doubled twice cs).length := by
  induction cs with
  | nil => exact Nat.le_refl _
  | cons c cs ih =>
      have hwritten : 1 ≤ (if twice.contains c then [c, c] else [c]).length := by
        split <;> simp
      rw [doubled, List.flatMap_cons, List.length_append, List.length_cons, ← doubled]
      omega

theorem enclosed_ne (quote : Char) (twice cs : List Char) : enclosed quote twice cs ≠ cs := by
  intro heq
  have hlength := congrArg List.length heq
  have hle := length_le_doubled twice cs
  simp only [enclosed, List.length_append, List.length_cons, List.length_nil] at hlength
  omega

/-- A text between quotes is read back, and what follows it is left. -/
theorem readQuoted_enclosed (h : Doubles quote escapes twice) {rest : List Char}
    (hrest : rest.head? ≠ some quote) (cs : List Char) :
    readQuoted quote escapes (enclosed quote twice cs ++ rest) = some (cs, rest) := by
  have hbody : enclosed quote twice cs ++ rest = quote :: (doubled twice cs ++ quote :: rest) := by
    simp [enclosed]
  rw [hbody, readQuoted, if_pos rfl, readQuotedBody_doubled h hrest]

end SqlDialect.Text
