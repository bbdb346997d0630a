import SqlDialect.Proofs.Mode.Names

/-!
# The items of a list of names

Which items a list of names has is said here by the text alone (`Itemized`): what stands
between its commas, without the blanks around it, if anything is left. `Mode.items` are
these items in capital letters (`Itemized.items_eq`).

The case of a piece, blanks around it and blank pieces make no difference to the items
of a list (`Respelled.items_eq`).
-/

namespace SqlDialect

namespace Text

theorem upperChar_eq_comma (c : Char) : (upperChar c == ',') = (c == ',') := by
  rcases upperChar_cases c with hsame | ⟨hlow, hhigh, hcode⟩
  · rw [hsame]
  · have hcomma : ','.toNat = 0x2C := rfl
    have hbefore : c ≠ ',' := by
      rintro rfl
      omega
    have hafter : upperChar c ≠ ',' := by
      intro heq
      rw [heq] at hcode
      omega
    rw [beq_eq_false_iff_ne.mpr hbefore, beq_eq_false_iff_ne.mpr hafter]

end Text

namespace Mode

/-! ## What the items are -/

/-- The items among the pieces of a list, in their order: every piece that is not blank,
without the blanks around it. -/
inductive Items : List (List Char) → List String → Prop
  | nil : Items [] []
  | blank {piece : List Char} {pieces : List (List Char)} {names : List String} :
      Text.Trims piece [] → Items pieces names → Items (piece :: pieces) names
  | item {piece : List Char} {pieces : List (List Char)} {name : String} {names : List String} :
      Text.Trims piece name.toList → name ≠ "" → Items pieces names →
      Items (piece :: pieces) (name :: names)

/-- The text has these items between its commas. -/
def Itemized (s : String) (names : List String) : Prop :=
  ∃ pieces, Text.Cuts ',' s.toList pieces ∧ Items pieces names

theorem item?_eq_none {piece : List Char} (h : Text.trim piece = []) : item? piece = none := by
  rw [item?, h]
  rfl

theorem Items.filterMap_eq {pieces : List (List Char)} {names : List String}
    (h : Items pieces names) : pieces.filterMap item? = names.map Text.upper := by
  induction h with
  | nil => rfl
  | blank htrims _ ih =>
      rw [List.filterMap_cons_none (item?_eq_none (Text.trims_iff.mp htrims)), ih]
  | item htrims hname _ ih =>
      rw [List.filterMap_cons_some (item?_eq_some (Text.trims_iff.mp htrims) hname), ih,
        List.map_cons]

theorem Items.trimmed_eq {pieces : List (List Char)} {names : List String}
    (h : Items pieces names) : ∀ name ∈ names, Text.trimmed name = name := by
  induction h with
  | nil => exact fun name hname => by cases hname
  | blank _ _ ih => exact ih
  | @item piece pieces name names htrims _ _ ih =>
      intro other hother
      rcases List.mem_cons.mp hother with rfl | hrest
      · rw [Text.trimmed, ← Text.trims_iff.mp htrims, Text.trim_trim, Text.trims_iff.mp htrims,
          String.ofList_toList]
      · exact ih other hrest

theorem exists_items (pieces : List (List Char)) : ∃ names, Items pieces names := by
  induction pieces with
  | nil => exact ⟨[], .nil⟩
  | cons piece pieces ih =>
      obtain ⟨names, hnames⟩ := ih
      have htrims : Text.Trims piece (String.ofList (Text.trim piece)).toList := by
        rw [String.toList_ofList]
        exact Text.trims_iff.mpr rfl
      by_cases hblank : String.ofList (Text.trim piece) = ""
      · rw [hblank] at htrims
        exact ⟨names, .blank htrims hnames⟩
      · exact ⟨_, .item htrims hblank hnames⟩

theorem exists_itemized (s : String) : ∃ names, Itemized s names := by
  obtain ⟨names, hnames⟩ := exists_items (Text.fields (· == ',') s.toList)
  exact ⟨names, _, Text.cuts_fields _ _, hnames⟩

theorem Itemized.items_eq {s : String} {names : List String} (h : Itemized s names) :
    items s = names.map Text.upper := by
  obtain ⟨pieces, hcuts, hitems⟩ := h
  rw [Mode.items_eq, Text.cuts_iff.mp hcuts, hitems.filterMap_eq]

theorem Itemized.trimmed_eq {s : String} {names : List String} (h : Itemized s names) :
    ∀ name ∈ names, Text.trimmed name = name := by
  obtain ⟨pieces, -, hitems⟩ := h
  exact hitems.trimmed_eq

/-! ## Lists that are written otherwise -/

/-- One piece of a list is written in another case or with more blanks around it, or a
blank piece is added. -/
inductive Respelled : List String → List String → Prop
  | recase {before after : List String} {p q : String} : Text.sameName p q = true →
      Respelled (before ++ p :: after) (before ++ q :: after)
  | pad {before after : List String} {lead p trail : String} :
      (∀ c ∈ lead.toList, Text.isBlank c = true) → (∀ c ∈ trail.toList, Text.isBlank c = true) →
      Respelled (before ++ p :: after) (before ++ (lead ++ p ++ trail) :: after)
  | blank {before after : List String} {p : String} : (∀ c ∈ p.toList, Text.isBlank c = true) →
      Respelled (before ++ after) (before ++ p :: after)

theorem items_upper (s : String) : items (Text.upper s) = items s := by
  have hitem : item? ∘ List.map Text.upperChar = item? := by
    funext piece
    have hupper : String.ofList ((Text.trim piece).map Text.upperChar)
        = Text.upper (String.ofList (Text.trim piece)) := by
      rw [Text.upper, String.toList_ofList]
    rw [Function.comp_apply, item?, item?, Text.trim_map Text.isBlank_upperChar, List.isEmpty_map, hupper,
      Text.upper_upper]
  rw [items_eq, items_eq, Text.upper, String.toList_ofList, Text.fields_map Text.upperChar_eq_comma,
    List.filterMap_map, hitem]

theorem items_of_sameName {p q : String} (h : Text.sameName p q = true) : items p = items q := by
  rw [← items_upper p, Text.sameName_iff.mp h, items_upper]

theorem not_comma_of_isBlank {c : Char} (h : Text.isBlank c = true) : (c == ',') = false := by
  refine beq_eq_false_iff_ne.mpr ?_
  rintro rfl
  exact absurd h (by decide)

theorem items_lead {lead p : String} (hlead : ∀ c ∈ lead.toList, Text.isBlank c = true) :
    items (lead ++ p) = items p := by
  obtain ⟨piece, rest, hfields⟩ :=
    List.exists_cons_of_ne_nil (Text.fields_ne_nil (· == ',') p.toList)
  have hpadded := Text.fields_of_no_sep_append hfields fun c hc => not_comma_of_isBlank (hlead c hc)
  have htrim : Text.trim (lead.toList ++ piece) = Text.trim piece := by
    rw [← List.append_nil (_ ++ piece), Text.trim_pad hlead (by simp)]
  rw [items_eq, items_eq, String.toList_append, hfields, hpadded, List.filterMap_cons,
    List.filterMap_cons, item?, htrim, ← item?]

theorem items_trail {p trail : String} (htrail : ∀ c ∈ trail.toList, Text.isBlank c = true) :
    items (p ++ trail) = items p := by
  obtain ⟨pieces, last, hfields, hpadded⟩ := Text.fields_append_of_no_sep
    (fun c hc => not_comma_of_isBlank (htrail c hc)) p.toList
  have htrim : Text.trim (last ++ trail.toList) = Text.trim last := by
    rw [← List.nil_append last, Text.trim_pad (by simp) htrail, List.nil_append]
  rw [items_eq, items_eq, String.toList_append, hfields, hpadded, List.filterMap_append,
    List.filterMap_append, List.filterMap_cons, List.filterMap_cons, item?, htrim, ← item?]

theorem items_of_blank {p : String} (h : ∀ c ∈ p.toList, Text.isBlank c = true) : items p = [] := by
  have hempty : items (p ++ "") = items "" := items_lead h
  rw [String.append_empty] at hempty
  exact hempty.trans rfl

theorem Respelled.items_eq {ps qs : List String} (h : Respelled ps qs) :
    items (",".intercalate ps) = items (",".intercalate qs) := by
  rw [items_intercalate, items_intercalate]
  cases h with
  | recase hsame => simp only [List.flatMap_append, List.flatMap_cons, items_of_sameName hsame]
  | pad hlead htrail =>
      simp only [List.flatMap_append, List.flatMap_cons, items_trail htrail, items_lead hlead]
  | blank hblank =>
      simp only [List.flatMap_append, List.flatMap_cons, items_of_blank hblank, List.nil_append]

end Mode

end SqlDialect
