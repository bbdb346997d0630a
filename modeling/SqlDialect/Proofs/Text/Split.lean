import Mathlib.Data.List.TakeWhile
import SqlDialect.Text.Blank

/-!
# Cutting texts apart

What `Text.fields`, `Text.cutAt`, `Text.afterLast` and `Text.trim` do to a text that
was put together from known parts.

- `fields_append`: at a separator a text falls apart into two, which are cut on their
  own.
- `fields_intercalate`: cutting at a separator undoes joining with it, as long
  as no part contains it; so the fields of a text are the one way to cut it
  (`cuts_iff`).
- `afterLast_append`: the text after the last separator is the last part.
- `cutAt_eq_some_iff`: there is one way to cut a text in two at its first separator.
- `trims_iff`: trimming drops the blanks at the ends and nothing else. A text
  without blanks has nothing to trim (`trim_eq_self`), only a blank text is trimmed
  away (`trim_eq_nil_iff`), and more blanks at the ends make no difference (`trim_pad`).
-/

namespace SqlDialect.Text

/-! ## The text after the last separator -/

/-- A text is kept whole by the backward search for a separator that it does
not contain. -/
theorem takeWhile_reverse_append {sep : Char} {cs : List Char} (h : sep ∉ cs)
    (rest : List Char) :
    (cs.reverse ++ rest).takeWhile (· != sep) = cs.reverse ++ rest.takeWhile (· != sep) := by
  refine List.takeWhile_append_of_pos fun c hc => ?_
  have hne : c ≠ sep := fun heq => h (heq ▸ List.mem_reverse.mp hc)
  simpa using hne

theorem afterLast_of_not_mem {sep : Char} {cs : List Char} (h : sep ∉ cs) :
    afterLast sep cs = cs := by
  have hwhole := takeWhile_reverse_append h []
  simp only [List.append_nil, List.takeWhile_nil] at hwhole
  rw [afterLast, hwhole, List.reverse_reverse]

theorem afterLast_append {sep : Char} {lead cs : List Char} (h : sep ∉ cs) :
    afterLast sep (lead ++ sep :: cs) = cs := by
  rw [afterLast, List.reverse_append, List.reverse_cons, List.append_assoc,
    takeWhile_reverse_append h]
  simp

/-! ## The first separator -/

theorem cutAt_eq_none_iff {sep : Char} {cs : List Char} : cutAt sep cs = none ↔ sep ∉ cs := by
  induction cs with
  | nil => simp [cutAt]
  | cons c cs ih =>
      rw [cutAt]
      split
      · rename_i hc
        simp [hc]
      · rename_i hc
        rw [Option.map_eq_none_iff, ih, List.mem_cons, not_or]
        exact ⟨fun h => ⟨fun heq => hc heq.symm, h⟩, fun h => h.2⟩

theorem cutAt_append {sep : Char} {rest : List Char} :
    ∀ {cs : List Char}, sep ∉ cs → cutAt sep (cs ++ sep :: rest) = some (cs, rest)
  | [], _ => by simp [cutAt]
  | c :: cs, h => by
      rw [List.mem_cons, not_or] at h
      rw [List.cons_append, cutAt, if_neg fun heq => h.1 heq.symm, cutAt_append h.2]
      rfl

/-- There is one way to cut a text in two at its first separator. -/
theorem cutAt_eq_some_iff {sep : Char} {cs l r : List Char} :
    cutAt sep cs = some (l, r) ↔ cs = l ++ sep :: r ∧ sep ∉ l := by
  constructor
  · intro h
    induction cs generalizing l with
    | nil => cases h
    | cons c cs ih =>
        rw [cutAt] at h
        split at h
        · rename_i hc
          cases h
          exact ⟨by rw [hc, List.nil_append], List.not_mem_nil⟩
        · rename_i hc
          obtain ⟨⟨l', r'⟩, hcut, heq⟩ := Option.map_eq_some_iff.mp h
          cases heq
          obtain ⟨hcs, hl⟩ := ih hcut
          rw [List.mem_cons, not_or]
          exact ⟨by rw [hcs, List.cons_append], fun heq => hc heq.symm, hl⟩
  · intro h
    rw [h.1, cutAt_append h.2]

/-! ## Fields -/

theorem fields_of_no_sep {sep : Char → Bool} :
    ∀ {cs : List Char}, (∀ c ∈ cs, sep c = false) → fields sep cs = [cs]
  | [], _ => rfl
  | c :: cs, h => by
      have hc : sep c = false := h c (List.mem_cons_self ..)
      have hcs := fields_of_no_sep fun d hd => h d (List.mem_cons_of_mem _ hd)
      simp [fields, hc, hcs]

theorem fields_ne_nil (sep : Char → Bool) (cs : List Char) : fields sep cs ≠ [] := by
  cases cs with
  | nil => exact List.cons_ne_nil _ _
  | cons c cs =>
      rw [fields]
      split
      · exact List.cons_ne_nil _ _
      · split <;> exact List.cons_ne_nil _ _

theorem fields_cons {sep : Char → Bool} {c : Char} (hc : sep c = false) {cs piece : List Char}
    {rest : List (List Char)} (h : fields sep cs = piece :: rest) :
    fields sep (c :: cs) = (c :: piece) :: rest := by
  rw [fields, hc, h]
  rfl

theorem fields_append {sep : Char → Bool} {s : Char} (hs : sep s = true) (rest : List Char) :
    ∀ cs : List Char, fields sep (cs ++ s :: rest) = fields sep cs ++ fields sep rest
  | [] => by simp [fields, hs]
  | c :: cs => by
      have ih := fields_append hs rest cs
      cases hc : sep c with
      | true => simp [fields, hc, ih]
      | false =>
          obtain ⟨piece, pieces, hfields⟩ := List.exists_cons_of_ne_nil (fields_ne_nil sep cs)
          rw [hfields, List.cons_append] at ih
          rw [List.cons_append, fields_cons hc ih, fields_cons hc hfields, List.cons_append]

theorem fields_append_sep {sep : Char → Bool} {s : Char} (hs : sep s = true) {rest cs : List Char}
    (h : ∀ c ∈ cs, sep c = false) : fields sep (cs ++ s :: rest) = cs :: fields sep rest := by
  rw [fields_append hs, fields_of_no_sep h, List.singleton_append]

theorem fields_of_no_sep_append {sep : Char → Bool} {cs piece : List Char} {rest : List (List Char)}
    (h : fields sep cs = piece :: rest) :
    ∀ {lead : List Char}, (∀ c ∈ lead, sep c = false) →
      fields sep (lead ++ cs) = (lead ++ piece) :: rest
  | [], _ => h
  | c :: lead, hlead => by
      have ih := fields_of_no_sep_append h fun d hd => hlead d (List.mem_cons_of_mem _ hd)
      exact fields_cons (hlead c (List.mem_cons_self ..)) ih

theorem fields_append_of_no_sep {sep : Char → Bool} {trail : List Char}
    (htrail : ∀ c ∈ trail, sep c = false) :
    ∀ cs : List Char, ∃ pieces last, fields sep cs = pieces ++ [last]
      ∧ fields sep (cs ++ trail) = pieces ++ [last ++ trail]
  | [] => ⟨[], [], rfl, fields_of_no_sep htrail⟩
  | c :: cs => by
      obtain ⟨pieces, last, hcs, happend⟩ := fields_append_of_no_sep htrail cs
      cases hc : sep c with
      | true => exact ⟨[] :: pieces, last, by simp [fields, hc, hcs], by simp [fields, hc, happend]⟩
      | false =>
          cases pieces with
          | nil => exact ⟨[], c :: last, fields_cons hc hcs, fields_cons hc happend⟩
          | cons piece pieces =>
              exact ⟨(c :: piece) :: pieces, last, fields_cons hc hcs, fields_cons hc happend⟩

/-- What neither makes nor unmakes a separator does not move the cuts. -/
theorem fields_map {sep : Char → Bool} {f : Char → Char} (hf : ∀ c, sep (f c) = sep c)
    (cs : List Char) : fields sep (cs.map f) = (fields sep cs).map (List.map f) := by
  induction cs with
  | nil => rfl
  | cons c cs ih =>
      cases hc : sep c with
      | true => simp [fields, hf, hc, ih]
      | false =>
          obtain ⟨piece, rest, hfields⟩ := List.exists_cons_of_ne_nil (fields_ne_nil sep cs)
          rw [hfields, List.map_cons] at ih
          rw [List.map_cons, fields_cons ((hf c).trans hc) ih, fields_cons hc hfields]
          rfl

theorem no_sep_of_not_mem {s : Char} {cs : List Char} (h : s ∉ cs) :
    ∀ c ∈ cs, (c == s) = false := by
  intro c hc
  have hne : c ≠ s := fun heq => h (heq ▸ hc)
  simpa using hne

/-- Cutting at a character undoes joining with it. -/
theorem fields_intercalate {s : Char} :
    ∀ {parts : List (List Char)}, parts ≠ [] → (∀ p ∈ parts, s ∉ p) →
      fields (· == s) ([s].intercalate parts) = parts
  | [], hne, _ => absurd rfl hne
  | [p], _, h => by
      have hp := no_sep_of_not_mem (h p (List.mem_singleton.mpr rfl))
      rw [List.intercalate_singleton, fields_of_no_sep hp]
  | p :: q :: rest, _, h => by
      have hp := no_sep_of_not_mem (h p (List.mem_cons_self ..))
      have hrest : fields (· == s) ([s].intercalate (q :: rest)) = q :: rest :=
        fields_intercalate (by simp) fun r hr => h r (List.mem_cons_of_mem _ hr)
      rw [List.intercalate_cons_cons, List.append_assoc, List.singleton_append,
        fields_append_sep (by simp) hp, hrest]

theorem forall_mem_intercalate {P : Char → Prop} {s : Char} (hs : P s) :
    ∀ {parts : List (List Char)}, (∀ p ∈ parts, ∀ c ∈ p, P c) → ∀ c ∈ [s].intercalate parts, P c
  | [], _ => by simp
  | [p], h => by simpa using h p (List.mem_singleton.mpr rfl)
  | p :: q :: rest, h => by
      intro c hc
      rw [List.intercalate_cons_cons, List.append_assoc, List.singleton_append] at hc
      rcases List.mem_append.mp hc with hc | hc
      · exact h p (List.mem_cons_self ..) c hc
      · rcases List.mem_cons.mp hc with rfl | hc
        · exact hs
        · exact forall_mem_intercalate hs (fun r hr => h r (List.mem_cons_of_mem _ hr)) c hc

/-- `parts` are the pieces of `cs` between the characters `s`. -/
structure Cuts (s : Char) (cs : List Char) (parts : List (List Char)) : Prop where
  joined : [s].intercalate parts = cs
  ne_nil : parts ≠ []
  no_sep : ∀ p ∈ parts, s ∉ p

theorem cuts_fields (s : Char) (cs : List Char) : Cuts s cs (fields (· == s) cs) := by
  induction cs with
  | nil => exact ⟨rfl, List.cons_ne_nil _ _, by simp [fields]⟩
  | cons c cs ih =>
      obtain ⟨hjoined, hne, hsep⟩ := ih
      rcases hfields : fields (· == s) cs with _ | ⟨piece, rest⟩
      · exact absurd hfields hne
      rw [hfields] at hjoined hsep
      by_cases hc : c = s
      · have hstep : fields (· == s) (c :: cs) = [] :: piece :: rest := by
          simp [fields, hc, hfields]
        refine hstep ▸ ⟨?_, List.cons_ne_nil _ _, ?_⟩
        · rw [List.intercalate_cons_cons, hjoined, hc]
          rfl
        · intro p hp
          rcases List.mem_cons.mp hp with rfl | hp
          · exact List.not_mem_nil
          · exact hsep p hp
      · have hstep : fields (· == s) (c :: cs) = (c :: piece) :: rest := by
          simp [fields, hc, hfields]
        refine hstep ▸ ⟨?_, List.cons_ne_nil _ _, ?_⟩
        · rw [← hjoined]
          cases rest with
          | nil => simp
          | cons q rest => simp [List.intercalate_cons_cons]
        · intro p hp
          rcases List.mem_cons.mp hp with rfl | hp
          · rintro (_ | ⟨_, hmem⟩)
            · exact hc rfl
            · exact hsep piece (List.mem_cons_self ..) hmem
          · exact hsep p (List.mem_cons_of_mem _ hp)

/-- There is one way to cut a text, into its fields. -/
theorem cuts_iff {s : Char} {cs : List Char} {parts : List (List Char)} :
    Cuts s cs parts ↔ fields (· == s) cs = parts := by
  constructor
  · rintro ⟨rfl, hne, hsep⟩
    exact fields_intercalate hne hsep
  · rintro rfl
    exact cuts_fields s cs

/-- Either `P` holds of all pieces, or there is a first one of which it does not. -/
theorem forall_or_first {α : Type} (P : α → Prop) (pieces : List α) :
    (∀ a ∈ pieces, P a)
    ∨ ∃ before a after, pieces = before ++ a :: after ∧ (∀ b ∈ before, P b) ∧ ¬P a := by
  induction pieces with
  | nil => exact Or.inl (by simp)
  | cons a pieces ih =>
      by_cases ha : P a
      · rcases ih with hall | ⟨before, b, after, rfl, hbefore, hb⟩
        · exact Or.inl (List.forall_mem_cons.mpr ⟨ha, hall⟩)
        · exact Or.inr ⟨a :: before, b, after, rfl, List.forall_mem_cons.mpr ⟨ha, hbefore⟩, hb⟩
      · exact Or.inr ⟨[], a, pieces, rfl, by simp, ha⟩

/-! ## Trimming -/

/-- `t` is what is left of `cs` when the blanks at its ends are dropped. -/
structure Trims (cs t : List Char) : Prop where
  blanks : ∃ lead trail, cs = lead ++ t ++ trail
    ∧ (∀ c ∈ lead, isBlank c = true) ∧ ∀ c ∈ trail, isBlank c = true
  first : ∀ c ∈ t.head?, isBlank c = false
  last : ∀ c ∈ t.getLast?, isBlank c = false

theorem dropWhile_isBlank_eq_self {cs : List Char} (h : ∀ c ∈ cs.head?, isBlank c = false) :
    cs.dropWhile isBlank = cs := by
  cases cs with
  | nil => rfl
  | cons c cs => exact List.dropWhile_cons_of_neg (by simp [h c rfl])

theorem isBlank_head?_dropWhile (cs : List Char) :
    ∀ c ∈ (cs.dropWhile isBlank).head?, isBlank c = false := by
  intro c hc
  have hhead := List.head?_dropWhile_not isBlank cs
  rw [Option.mem_def.mp hc] at hhead
  exact hhead

theorem trims_trimEnd {cs : List Char} (h : ∀ c ∈ cs.head?, isBlank c = false) :
    Trims cs (trimEnd cs) := by
  have hsplit : trimEnd cs ++ (cs.reverse.takeWhile isBlank).reverse = cs := by
    rw [trimEnd, ← List.reverse_append, List.takeWhile_append_dropWhile, List.reverse_reverse]
  refine ⟨⟨[], _, hsplit.symm, by simp, fun c hc => ?_⟩, fun c hc => ?_, ?_⟩
  · exact List.mem_takeWhile_imp (List.mem_reverse.mp hc)
  · refine h c ?_
    rw [← hsplit, List.head?_append, Option.mem_def.mp hc]
    rfl
  · rw [trimEnd, List.getLast?_reverse]
    exact isBlank_head?_dropWhile _

/-- There is one way to trim a text. -/
theorem trims_iff {cs t : List Char} : Trims cs t ↔ trim cs = t := by
  constructor
  · rintro ⟨⟨lead, trail, rfl, hlead, htrail⟩, hfirst, hlast⟩
    have hend : trimEnd (t ++ trail) = t := by
      have hback : ∀ c ∈ t.reverse.head?, isBlank c = false := by rwa [List.head?_reverse]
      rw [trimEnd, List.reverse_append, List.dropWhile_append_of_pos
        fun c hc => htrail c (List.mem_reverse.mp hc), dropWhile_isBlank_eq_self hback,
        List.reverse_reverse]
    rw [trim, List.append_assoc, List.dropWhile_append_of_pos hlead]
    cases t with
    | nil =>
        rw [List.nil_append, List.dropWhile_eq_nil_iff.mpr htrail]
        rfl
    | cons c t =>
        have hstart : ∀ d ∈ (c :: t ++ trail).head?, isBlank d = false := hfirst
        rw [dropWhile_isBlank_eq_self hstart, hend]
  · rintro rfl
    obtain ⟨⟨lead, trail, hsplit, hlead, htrail⟩, hfirst, hlast⟩ :=
      trims_trimEnd (isBlank_head?_dropWhile cs)
    refine ⟨⟨cs.takeWhile isBlank ++ lead, trail, ?_, ?_, htrail⟩, hfirst, hlast⟩
    · rw [trim, List.append_assoc, List.append_assoc, ← List.append_assoc lead, ← hsplit,
        List.takeWhile_append_dropWhile]
    · intro c hc
      rcases List.mem_append.mp hc with hc | hc
      · exact List.mem_takeWhile_imp hc
      · exact hlead c hc

theorem trim_eq_self {cs : List Char} (h : ∀ c ∈ cs, isBlank c = false) : trim cs = cs :=
  trims_iff.mp
    { blanks := ⟨[], [], by simp, by simp, by simp⟩
      first := fun c hc => h c (List.mem_of_head? hc)
      last := fun c hc => h c (List.mem_of_getLast? hc) }

theorem trim_trim (cs : List Char) : trim (trim cs) = trim cs := by
  have htrims : Trims cs (trim cs) := trims_iff.mpr rfl
  exact trims_iff.mp ⟨⟨[], [], by simp, by simp, by simp⟩, htrims.first, htrims.last⟩

theorem mem_trim_iff {c : Char} (hc : isBlank c = false) {cs : List Char} :
    c ∈ trim cs ↔ c ∈ cs := by
  have htrims : Trims cs (trim cs) := trims_iff.mpr rfl
  obtain ⟨lead, trail, hcs, hlead, htrail⟩ := htrims.blanks
  have hends : c ∉ lead ∧ c ∉ trail :=
    ⟨fun h => by simp [hlead c h] at hc, fun h => by simp [htrail c h] at hc⟩
  conv => rhs; rw [hcs]
  simp [hends]

theorem trim_concat {cs : List Char} (hcs : trim cs = cs) (hne : cs ≠ []) {c : Char}
    (hc : isBlank c = false) : trim (cs ++ [c]) = cs ++ [c] := by
  have htrims : Trims cs cs := trims_iff.mpr hcs
  refine trims_iff.mp ⟨⟨[], [], by simp, by simp, by simp⟩, ?_, ?_⟩
  · obtain ⟨d, ds, rfl⟩ := List.exists_cons_of_ne_nil hne
    exact htrims.first
  · simpa using hc

theorem trim_pad {lead trail : List Char} (hlead : ∀ c ∈ lead, isBlank c = true)
    (htrail : ∀ c ∈ trail, isBlank c = true) (cs : List Char) :
    trim (lead ++ cs ++ trail) = trim cs := by
  have htrims : Trims cs (trim cs) := trims_iff.mpr rfl
  generalize trim cs = t at htrims ⊢
  obtain ⟨⟨inner, outer, rfl, hinner, houter⟩, hfirst, hlast⟩ := htrims
  refine trims_iff.mp ⟨⟨lead ++ inner, outer ++ trail, by simp, ?_, ?_⟩, hfirst, hlast⟩
  · intro c hc
    exact (List.mem_append.mp hc).elim (hlead c) (hinner c)
  · intro c hc
    exact (List.mem_append.mp hc).elim (houter c) (htrail c)

/-- What neither makes nor unmakes a blank does not change what is trimmed. -/
theorem trim_map {f : Char → Char} (hf : ∀ c, isBlank (f c) = isBlank c) (cs : List Char) :
    trim (cs.map f) = (trim cs).map f := by
  have hblank : isBlank ∘ f = isBlank := funext hf
  simp only [trim, trimEnd, List.dropWhile_map, hblank, ← List.map_reverse]

theorem isBlank_of_visible {c : Char} (hlo : 0x20 < c.toNat) (hhi : c.toNat < 0x7F) :
    isBlank c = false := by
  simp only [isBlank, blankRanges, List.any_cons, List.any_nil, Bool.or_false,
    Bool.or_eq_false_iff, Bool.and_eq_false_iff, decide_eq_false_iff_not]
  omega

theorem trim_eq_nil_iff {cs : List Char} : trim cs = [] ↔ ∀ c ∈ cs, isBlank c = true := by
  rw [← trims_iff]
  constructor
  · rintro ⟨⟨lead, trail, rfl, hlead, htrail⟩, -, -⟩ c hc
    rw [List.append_nil] at hc
    rcases List.mem_append.mp hc with hc | hc
    · exact hlead c hc
    · exact htrail c hc
  · intro h
    exact ⟨⟨cs, [], by simp, h, by simp⟩, by simp, by simp⟩

end SqlDialect.Text
