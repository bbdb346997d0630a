import SqlDialect.Proofs.Text.Case

/-!
# Words

Which words a text has is said here by the text alone (`HasWords`): runs without
blanks, with blanks between them and perhaps at the ends. Every text has words, and
there is one way to find them (`hasWords_iff`); they are what `Text.words` cuts out.

Texts with the same words up to case are the same name up to case once there are
single spaces between the words (`SameWords.sameName_singleSpaced`).
-/

namespace SqlDialect.Text

/-- `ws` are the words of `cs`, in order. A word goes on until the next blank or the
end of the text. -/
inductive HasWords : List Char → List (List Char) → Prop
  | blank {gap : List Char} : (∀ c ∈ gap, isBlank c = true) → HasWords gap []
  | word {gap w rest : List Char} {ws : List (List Char)} :
      (∀ c ∈ gap, isBlank c = true) → w ≠ [] → (∀ c ∈ w, isBlank c = false) →
      (∀ c ∈ rest.head?, isBlank c = true) → HasWords rest ws →
      HasWords (gap ++ w ++ rest) (w :: ws)

/-! ## Cutting out the words -/

theorem words_cons_blank {c : Char} (hc : isBlank c = true) (cs : List Char) :
    words (c :: cs) = words cs := by
  simp [words, fields, hc]

theorem words_blank_append {gap : List Char} (hgap : ∀ c ∈ gap, isBlank c = true)
    (cs : List Char) : words (gap ++ cs) = words cs := by
  induction gap with
  | nil => rfl
  | cons c gap ih =>
      obtain ⟨hc, hgap⟩ := List.forall_mem_cons.mp hgap
      rw [List.cons_append, words_cons_blank hc, ih hgap]

theorem words_word_append {w rest : List Char} (hne : w ≠ []) (hw : ∀ c ∈ w, isBlank c = false)
    (hrest : ∀ c ∈ rest.head?, isBlank c = true) : words (w ++ rest) = w :: words rest := by
  cases rest with
  | nil => simp [words, fields_of_no_sep hw, fields, hne]
  | cons s rest =>
      have hs : isBlank s = true := hrest s rfl
      rw [words_cons_blank hs, words, fields_append_sep hs hw]
      simp [words, hne]

theorem HasWords.words_eq {cs : List Char} {ws : List (List Char)} (h : HasWords cs ws) :
    words cs = ws := by
  induction h with
  | @blank gap hgap =>
      have hempty := words_blank_append hgap []
      rw [List.append_nil] at hempty
      exact hempty
  | word hgap hne hw hrest _ ih =>
      rw [List.append_assoc, words_blank_append hgap, words_word_append hne hw hrest, ih]

theorem HasWords.cons_blank {c : Char} (hc : isBlank c = true) {cs : List Char}
    {ws : List (List Char)} (h : HasWords cs ws) : HasWords (c :: cs) ws := by
  cases h with
  | blank hgap => exact .blank (List.forall_mem_cons.mpr ⟨hc, hgap⟩)
  | word hgap hne hw hrest hwords =>
      exact .word (List.forall_mem_cons.mpr ⟨hc, hgap⟩) hne hw hrest hwords

/-- In front of a blank, or of nothing, a character is a word of its own. -/
theorem HasWords.cons_alone {c : Char} (hc : isBlank c = false) {cs : List Char}
    {ws : List (List Char)} (h : HasWords cs ws) (hcs : ∀ d ∈ cs.head?, isBlank d = true) :
    HasWords (c :: cs) ([c] :: ws) := by
  have hword : HasWords ([] ++ [c] ++ cs) ([c] :: ws) :=
    .word (by simp) (by simp) (by simpa using hc) hcs h
  exact hword

theorem HasWords.cons_word {c : Char} (hc : isBlank c = false) {w rest : List Char}
    {ws : List (List Char)} (hw : ∀ d ∈ w, isBlank d = false)
    (hrest : ∀ d ∈ rest.head?, isBlank d = true) (h : HasWords rest ws) :
    HasWords (c :: (w ++ rest)) ((c :: w) :: ws) := by
  have hword : HasWords ([] ++ (c :: w) ++ rest) ((c :: w) :: ws) :=
    .word (by simp) (by simp) (List.forall_mem_cons.mpr ⟨hc, hw⟩) hrest h
  exact hword

theorem exists_hasWords (cs : List Char) : ∃ ws, HasWords cs ws := by
  induction cs with
  | nil => exact ⟨[], .blank (by simp)⟩
  | cons c cs ih =>
      obtain ⟨ws, hwords⟩ := ih
      cases hc : isBlank c with
      | true => exact ⟨ws, hwords.cons_blank hc⟩
      | false =>
          -- `c` starts a word, or lengthens the one that starts right after it
          cases hwords with
          | blank hgap =>
              exact ⟨_, (HasWords.blank hgap).cons_alone hc fun d hd =>
                hgap d (List.mem_of_head? hd)⟩
          | @word gap w rest ws hgap hne hw hrest hwords =>
              cases gap with
              | nil => exact ⟨_, hwords.cons_word hc hw hrest⟩
              | cons g gap =>
                  have hg : isBlank g = true := hgap g (List.mem_cons_self ..)
                  have hall := HasWords.word hgap hne hw hrest hwords
                  exact ⟨_, hall.cons_alone hc (by simpa using hg)⟩

/-- A text has one list of words. -/
theorem hasWords_iff {cs : List Char} {ws : List (List Char)} :
    HasWords cs ws ↔ words cs = ws := by
  constructor
  · exact HasWords.words_eq
  · rintro rfl
    obtain ⟨ws, hwords⟩ := exists_hasWords cs
    rw [hwords.words_eq]
    exact hwords

/-! ## Words up to case -/

/-- The words with single spaces between them. -/
def spaced (ws : List (List Char)) : String := String.ofList ([' '].intercalate ws)

theorem HasWords.singleSpaced_eq {s : String} {ws : List (List Char)}
    (h : HasWords s.toList ws) : singleSpaced s = spaced ws := by
  rw [singleSpaced, joinWords, h.words_eq, spaced]

/-- The texts have the same words, one by one, up to case. -/
def SameWords (s t : String) : Prop :=
  ∃ vs ws, HasWords s.toList vs ∧ HasWords t.toList ws
    ∧ vs.map (List.map lowerChar) = ws.map (List.map lowerChar)

theorem map_intercalate {f : Char → Char} {s : Char} (hs : f s = s) :
    ∀ parts : List (List Char),
      ([s].intercalate parts).map f = [s].intercalate (parts.map (List.map f))
  | [] => rfl
  | [p] => by simp
  | p :: q :: rest => by
      have ih := map_intercalate hs (q :: rest)
      rw [List.map_cons] at ih
      rw [List.intercalate_cons_cons, List.map_append, List.map_append, List.map_singleton, hs, ih]
      simp only [List.map_cons, List.intercalate_cons_cons]

theorem SameWords.sameName_singleSpaced {s t : String} (h : SameWords s t) :
    sameName (singleSpaced s) (singleSpaced t) = true := by
  obtain ⟨vs, ws, hvs, hws, hcase⟩ := h
  have hspace : lowerChar ' ' = ' ' := rfl
  rw [hvs.singleSpaced_eq, hws.singleSpaced_eq, sameName, beq_iff_eq, spaced, spaced,
    String.toList_ofList, String.toList_ofList, map_intercalate hspace, map_intercalate hspace,
    hcase]

end SqlDialect.Text
