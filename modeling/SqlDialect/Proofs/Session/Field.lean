import SqlDialect.Session.Field

/-!
# Sessions by their fields

A session is what its fields hold (`Session.ext_get`), and setting a field sets that
field and no other (`Session.set?_eq_some_iff`). So a list of fields with values
gives a session exactly when it describes the session: no field occurs twice, each
holds the value that it is listed with, and those not listed hold what they hold in the
session in which nothing is said (`Session.ofFields?_eq_some_iff`).
-/

namespace SqlDialect

namespace FieldValue

@[simp] theorem text?_ofText (t : Option String) : (ofText t).text? = some t := by
  cases t <;> rfl

@[simp] theorem switch?_ofSwitch (b : Option Bool) : (ofSwitch b).switch? = some b := by
  cases b <;> rfl

theorem ofText_of_text? {v : FieldValue} {t : Option String} (hv : v.text? = some t) :
    ofText t = v := by
  cases v <;> cases hv <;> rfl

theorem ofSwitch_of_switch? {v : FieldValue} {b : Option Bool} (hv : v.switch? = some b) :
    ofSwitch b = v := by
  cases v <;> cases hv <;> rfl

theorem ofText_injective {t u : Option String} (h : ofText t = ofText u) : t = u := by
  have htext := congrArg text? h
  simpa using htext

theorem ofSwitch_injective {b c : Option Bool} (h : ofSwitch b = ofSwitch c) : b = c := by
  have hswitch := congrArg switch? h
  simpa using hswitch

end FieldValue

namespace Session

/-! ## One field -/

theorem ext_get {s t : Session} (h : ∀ f, s.get f = t.get f) : s = t := by
  cases s with
  | mk =>
  cases t with
  | mk =>
  simp only [mk.injEq]
  exact ⟨FieldValue.text.inj (h .family), FieldValue.ofText_injective (h .version),
    FieldValue.ofText_injective (h .delimiter), FieldValue.ofText_injective (h .charset),
    FieldValue.ofText_injective (h .mode), FieldValue.ofSwitch_injective (h .quoteAllNames),
    FieldValue.ofSwitch_injective (h .canonicalizeTypes),
    FieldValue.ofSwitch_injective (h .verboseOutput),
    FieldValue.ofSwitch_injective (h .optionalEquals)⟩

theorem exists_set? (s t : Session) (f : SessionField) : ∃ s', s.set? f (t.get f) = some s' := by
  cases f <;> simp [set?, get]

theorem get_of_set? {s s' : Session} {f : SessionField} {v : FieldValue}
    (hset : s.set? f v = some s') : s'.get f = v ∧ ∀ g, g ≠ f → s'.get g = s.get g := by
  cases f with
  | family =>
      cases v with
      | text t =>
          obtain rfl := Option.some.inj hset
          exact ⟨rfl, fun g hg => by cases g <;> simp_all [get]⟩
      | unset | switch => cases hset
  | version | delimiter | charset | mode =>
      obtain ⟨t, ht, rfl⟩ := Option.map_eq_some_iff.mp hset
      exact ⟨FieldValue.ofText_of_text? ht, fun g hg => by cases g <;> simp_all [get]⟩
  | quoteAllNames | canonicalizeTypes | verboseOutput | optionalEquals =>
      obtain ⟨b, hb, rfl⟩ := Option.map_eq_some_iff.mp hset
      exact ⟨FieldValue.ofSwitch_of_switch? hb, fun g hg => by cases g <;> simp_all [get]⟩

/-- Setting a field gives the session that holds the value there and agrees with the
old one elsewhere, if there is such a session. -/
theorem set?_eq_some_iff {s s' : Session} {f : SessionField} {v : FieldValue} :
    s.set? f v = some s' ↔ s'.get f = v ∧ ∀ g, g ≠ f → s'.get g = s.get g := by
  refine ⟨get_of_set?, ?_⟩
  rintro ⟨rfl, hother⟩
  obtain ⟨u, hu⟩ := exists_set? s s' f
  obtain ⟨huf, hug⟩ := get_of_set? hu
  rw [hu, Option.some.injEq]
  refine ext_get fun g => ?_
  by_cases hg : g = f
  · rw [hg, huf]
  · rw [hug g hg, hother g hg]

/-! ## All fields -/

theorem distinct_iff (fs : List SessionField) : distinct fs = true ↔ fs.Nodup := by
  induction fs with
  | nil => simp [distinct]
  | cons f fs ih => simp [distinct, ih]

theorem setAll?_eq_some_iff {t : Session} {fields : List (SessionField × FieldValue)}
    (hnodup : (fields.map (·.1)).Nodup) :
    ∀ {s : Session}, setAll? s fields = some t ↔
      (∀ p ∈ fields, t.get p.1 = p.2) ∧ ∀ g, g ∉ fields.map (·.1) → t.get g = s.get g := by
  induction fields with
  | nil =>
      intro s
      rw [setAll?, Option.some.injEq]
      constructor
      · rintro rfl
        simp
      · rintro ⟨-, hget⟩
        exact ext_get fun g => (hget g List.not_mem_nil).symm
  | cons p fields ih =>
      obtain ⟨f, v⟩ := p
      obtain ⟨hf, hrest⟩ := List.nodup_cons.mp hnodup
      intro s
      rw [setAll?, Option.bind_eq_some_iff, List.forall_mem_cons]
      simp only [List.map_cons, List.mem_cons, not_or, and_imp]
      constructor
      · rintro ⟨s', hset, hall⟩
        obtain ⟨hs'f, hs'g⟩ := set?_eq_some_iff.mp hset
        obtain ⟨hsaid, hunsaid⟩ := (ih hrest).mp hall
        refine ⟨⟨(hunsaid f hf).trans hs'f, hsaid⟩, fun g hgf hg => ?_⟩
        rw [hunsaid g hg, hs'g g hgf]
      · rintro ⟨⟨rfl, hsaid⟩, hunsaid⟩
        obtain ⟨s', hset⟩ := exists_set? s t f
        obtain ⟨hs'f, hs'g⟩ := set?_eq_some_iff.mp hset
        refine ⟨s', hset, (ih hrest).mpr ⟨hsaid, fun g hg => ?_⟩⟩
        by_cases hgf : g = f
        · rw [hgf, hs'f]
        · rw [hunsaid g hgf hg, hs'g g hgf]

/-- The list says of each of its fields what the session holds there, and leaves out
only fields of which there is nothing to say. -/
structure DescribedBy (s : Session) (fields : List (SessionField × FieldValue)) : Prop where
  nodup : (fields.map (·.1)).Nodup
  said : ∀ p ∈ fields, s.get p.1 = p.2
  unsaid : ∀ f, f ∉ fields.map (·.1) → s.get f = default.get f

theorem ofFields?_eq_some_iff {s : Session} {fields : List (SessionField × FieldValue)} :
    ofFields? fields = some s ↔ s.DescribedBy fields := by
  rw [ofFields?]
  by_cases hnodup : (fields.map (·.1)).Nodup
  · rw [if_pos ((distinct_iff _).mpr hnodup), setAll?_eq_some_iff hnodup]
    exact ⟨fun ⟨hsaid, hunsaid⟩ => ⟨hnodup, hsaid, hunsaid⟩,
      fun h => ⟨h.said, h.unsaid⟩⟩
  · rw [if_neg (mt (distinct_iff _).mp hnodup)]
    constructor
    · intro h
      cases h
    · intro h
      exact absurd h.nodup hnodup

end Session

/-! ## Names -/

namespace SessionField

theorem mem_all (f : SessionField) : f ∈ all := by
  cases f <;> decide

theorem named?_eq_some_iff {key : String} {f : SessionField} :
    named? key = some f ↔ key = f.name := by
  constructor
  · intro hf
    have hname := List.find?_some hf
    exact (beq_iff_eq.mp hname).symm
  · rintro rfl
    cases f <;> decide

end SessionField

end SqlDialect
