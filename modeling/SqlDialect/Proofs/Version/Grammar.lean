import SqlDialect.Proofs.Text.Number
import SqlDialect.Proofs.Text.Split
import SqlDialect.Version.Parser

/-!
# The grammar of versions

What `Version.parse` makes of a text is said here without the work of reading it,
as a relation between texts and outcomes with one rule for each kind of outcome
(`Version.Reads`). The rules exclude each other by the order in which the faults
count: a blank text, a segment that is no number, a fourth segment, a minor or
patch that a dotted version cannot have.

That the parser follows the rules is two facts. What a rule allows is what the
parser gives (`parse_of_reads`), and some rule applies to every text
(`exists_reads`). As there is one outcome of the parser, there is one of the rules.
-/

namespace SqlDialect.Version

/-! ## The rules -/

/-- The segment writes the number `n`, with or without blanks around it. -/
def Component (segment : List Char) (n : Nat) : Prop :=
  ∃ t, Text.Trims segment t ∧ Text.IsNumber t n

/-- One to three segments that write the components of a version, one each. -/
inductive Spelled : List (List Char) → Version → Prop
  | major {a : List Char} {x : Nat} : Component a x → Spelled [a] ⟨x, none, none⟩
  | minor {a b : List Char} {x y : Nat} : Component a x → Component b y →
      Spelled [a, b] ⟨x, some y, none⟩
  | patch {a b c : List Char} {x y z : Nat} : Component a x → Component b y → Component c z →
      Spelled [a, b, c] ⟨x, some y, some z⟩

/-- If the version is dotted, its minor and patch have at most two digits. -/
def InRange (v : Version) : Prop :=
  v.major ≤ 90 → (∀ m ∈ v.minor, m ≤ 99) ∧ ∀ p ∈ v.patch, p ≤ 99

/-- The version is dotted, and `n` is the first of minor and patch that has more
than two digits. -/
def Exceeds (v : Version) (n : Nat) : Prop :=
  v.major ≤ 90 ∧ 99 < n ∧ (v.minor = some n ∨ (∀ m ∈ v.minor, m ≤ 99) ∧ v.patch = some n)

/-- The text without the blanks around it is `t`, which is not empty, and the dots
cut `t` into the segments. -/
structure Segmented (s : String) (t : List Char) (segments : List (List Char)) : Prop where
  trims : Text.Trims s.toList t
  ne_nil : t ≠ []
  cuts : Text.Cuts '.' t segments

/-- What a text is read as. -/
inductive Reads (s : String) : Except VersionError Version → Prop
  | version {t : List Char} {segments : List (List Char)} {v : Version} :
      Segmented s t segments → Spelled segments v → v.InRange → Reads s (.ok v)
  | empty : Text.Trims s.toList [] → Reads s (.error .empty)
  /-- The first of three segments that is no number. -/
  | invalidSegment {t segment u : List Char} {before after : List (List Char)} :
      Segmented s t (before ++ segment :: after) → before.length < 3 →
      (∀ a ∈ before, ∃ n, Component a n) → (¬∃ n, Component segment n) → Text.Trims segment u →
      Reads s (.error (.invalidSegment (String.ofList t) (String.ofList u)))
  /-- Three numbers and something after them, whatever it is. -/
  | tooManySegments {t : List Char} {first rest : List (List Char)} :
      Segmented s t (first ++ rest) → first.length = 3 → rest ≠ [] →
      (∀ a ∈ first, ∃ n, Component a n) → Reads s (.error (.tooManySegments (String.ofList t)))
  | outOfRange {t : List Char} {segments : List (List Char)} {v : Version} {n : Nat} :
      Segmented s t segments → Spelled segments v → v.Exceeds n →
      Reads s (.error (.outOfRange (String.ofList t) n))

/-! ## Segments -/

theorem component_iff {segment : List Char} {n : Nat} :
    Component segment n ↔ Text.number? (Text.trim segment) = some n := by
  simp only [Component, Text.trims_iff, exists_eq_left', Text.number?_eq_some_iff]

theorem not_component_iff {segment : List Char} :
    (¬∃ n, Component segment n) ↔ Text.number? (Text.trim segment) = none := by
  simp only [component_iff, not_exists, Option.eq_none_iff_forall_ne_some, ne_eq]

theorem segmented_iff {s : String} {t : List Char} {segments : List (List Char)} :
    Segmented s t segments ↔
      Text.trim s.toList = t ∧ t ≠ [] ∧ Text.fields (· == '.') t = segments := by
  rw [← Text.trims_iff, ← Text.cuts_iff]
  constructor
  · rintro ⟨htrims, hne, hcuts⟩
    exact ⟨htrims, hne, hcuts⟩
  · rintro ⟨htrims, hne, hcuts⟩
    exact ⟨htrims, hne, hcuts⟩

theorem readSegments_eq_ok {segments : List (List Char)}
    (h : ∀ a ∈ segments, ∃ n, Component a n) : ∃ ns, readSegments segments = .ok ns := by
  induction segments with
  | nil => exact ⟨[], rfl⟩
  | cons a segments ih =>
      obtain ⟨n, hn⟩ := h a (List.mem_cons_self ..)
      obtain ⟨ns, hns⟩ := ih fun b hb => h b (List.mem_cons_of_mem _ hb)
      exact ⟨n :: ns, by simp [readSegments, component_iff.mp hn, hns]⟩

/-- Reading stops at the first segment that is no number. -/
theorem readSegments_eq_error {before after : List (List Char)} {segment : List Char}
    (hbefore : ∀ a ∈ before, ∃ n, Component a n) (hsegment : ¬∃ n, Component segment n) :
    readSegments (before ++ segment :: after) = .error (Text.trim segment) := by
  induction before with
  | nil => simp [readSegments, not_component_iff.mp hsegment]
  | cons a before ih =>
      obtain ⟨n, hn⟩ := hbefore a (List.mem_cons_self ..)
      have hrest := ih fun b hb => hbefore b (List.mem_cons_of_mem _ hb)
      simp [readSegments, component_iff.mp hn, hrest]

/-- One to three segments that are numbers spell a version. -/
theorem exists_spelled {segments : List (List Char)} (hne : segments ≠ [])
    (hlength : segments.length ≤ 3) (h : ∀ a ∈ segments, ∃ n, Component a n) :
    ∃ v, Spelled segments v := by
  match segments, hne, hlength with
  | [a], _, _ =>
      obtain ⟨x, hx⟩ := h a (by simp)
      exact ⟨_, .major hx⟩
  | [a, b], _, _ =>
      obtain ⟨x, hx⟩ := h a (by simp)
      obtain ⟨y, hy⟩ := h b (by simp)
      exact ⟨_, .minor hx hy⟩
  | [a, b, c], _, _ =>
      obtain ⟨x, hx⟩ := h a (by simp)
      obtain ⟨y, hy⟩ := h b (by simp)
      obtain ⟨z, hz⟩ := h c (by simp)
      exact ⟨_, .patch hx hy hz⟩
  | _ :: _ :: _ :: _ :: _, _, hlength =>
      simp only [List.length_cons] at hlength
      omega

/-! ## Ranges -/

theorem isEdition_eq_false_iff {v : Version} : v.isEdition = false ↔ v.major ≤ 90 := by
  rw [isEdition, decide_eq_false_iff_not, Nat.not_lt]
  rfl

theorem outOfRange?_eq_some_iff {v : Version} {n : Nat} :
    v.outOfRange? = some n ↔ v.Exceeds n := by
  have hlarge : ∀ o : Option Nat,
      o.toList.find? (lastComponent < ·) = some n ↔ 99 < n ∧ o = some n := by
    intro o
    have hfilter : o.toList.find? (lastComponent < ·) = o.filter (lastComponent < ·) := by
      cases o with
      | none => rfl
      | some m => by_cases hm : lastComponent < m <;> simp [Option.filter, hm]
    rw [hfilter, Option.filter_eq_some_iff, decide_eq_true_eq, and_comm]
    rfl
  have hsmall : v.minor.toList.find? (lastComponent < ·) = none ↔ ∀ m ∈ v.minor, m ≤ 99 := by
    simp only [List.find?_eq_none, Option.mem_toList, decide_eq_true_eq, Nat.not_lt]
    rfl
  rw [outOfRange?, Exceeds, ← isEdition_eq_false_iff]
  cases v.isEdition with
  | true => simp
  | false =>
      simp only [Bool.false_eq_true, if_false, true_and, List.find?_append, Option.or_eq_some_iff,
        hlarge, hsmall]
      rw [and_or_left, and_left_comm]

theorem outOfRange?_eq_none_iff {v : Version} : v.outOfRange? = none ↔ v.InRange := by
  rw [outOfRange?, InRange, ← isEdition_eq_false_iff]
  cases v.isEdition with
  | true => simp
  | false =>
      simp only [Bool.false_eq_true, if_false, forall_const, List.find?_eq_none, List.mem_append,
        Option.mem_toList, decide_eq_true_eq, Nat.not_lt, or_imp, forall_and]
      rfl

/-! ## The parser -/

/-- What the parser does once the text is cut. -/
theorem parse_of_segmented {s : String} {t : List Char} {segments : List (List Char)}
    (h : Segmented s t segments) :
    parse s =
      match readSegments (segments.take 3) with
      | .error bad => .error (.invalidSegment (String.ofList t) (String.ofList bad))
      | .ok components =>
        if 3 < segments.length then .error (.tooManySegments (String.ofList t))
        else match ofComponents? components with
          | none => .error .empty
          | some v =>
            match v.outOfRange? with
            | some value => .error (.outOfRange (String.ofList t) value)
            | none => .ok v := by
  obtain ⟨rfl, hne, rfl⟩ := segmented_iff.mp h
  exact if_neg (mt List.isEmpty_iff.mp hne)

theorem parse_of_spelled {s : String} {t : List Char} {segments : List (List Char)} {v : Version}
    (h : Segmented s t segments) (hv : Spelled segments v) :
    parse s =
      match v.outOfRange? with
      | some value => .error (.outOfRange (String.ofList t) value)
      | none => .ok v := by
  rw [parse_of_segmented h]
  cases hv with
  | major hx => simp [readSegments, component_iff.mp hx, ofComponents?]
  | minor hx hy => simp [readSegments, component_iff.mp hx, component_iff.mp hy, ofComponents?]
  | patch hx hy hz =>
      simp [readSegments, component_iff.mp hx, component_iff.mp hy, component_iff.mp hz,
        ofComponents?]

/-- The parser gives what the rules allow. -/
theorem parse_of_reads {s : String} {r : Except VersionError Version} (h : Reads s r) :
    parse s = r := by
  cases h with
  | version hs hv hrange => rw [parse_of_spelled hs hv, outOfRange?_eq_none_iff.mpr hrange]
  | empty htrims => simp [parse, Text.trims_iff.mp htrims]
  | @invalidSegment t segment u before after hs hthree hbefore hsegment htrims =>
      have htake : (before ++ segment :: after).take 3
          = before ++ segment :: after.take (2 - before.length) := by
        have hrest : 3 - before.length = 2 - before.length + 1 := by omega
        rw [List.take_append, List.take_of_length_le (Nat.le_of_lt hthree), hrest,
          List.take_succ_cons]
      rw [parse_of_segmented hs, htake, readSegments_eq_error hbefore hsegment,
        Text.trims_iff.mp htrims]
  | @tooManySegments t first rest hs hthree hrest hfirst =>
      obtain ⟨ns, hns⟩ := readSegments_eq_ok hfirst
      have hcount : 3 < (first ++ rest).length := by
        have := List.length_pos_iff.mpr hrest
        rw [List.length_append]
        omega
      rw [parse_of_segmented hs, List.take_left' hthree, hns]
      exact if_pos hcount
  | outOfRange hs hv hexceeds => rw [parse_of_spelled hs hv, outOfRange?_eq_some_iff.mpr hexceeds]

/-- Some rule applies to every text. -/
theorem exists_reads (s : String) : ∃ r, Reads s r := by
  by_cases hblank : Text.trim s.toList = []
  · exact ⟨_, .empty (Text.trims_iff.mpr hblank)⟩
  obtain ⟨segments, hsegments⟩ : ∃ segments, Text.fields (· == '.') (Text.trim s.toList) = segments :=
    ⟨_, rfl⟩
  have hs : Segmented s (Text.trim s.toList) segments := segmented_iff.mpr ⟨rfl, hblank, hsegments⟩
  have hwhole : segments.take 3 ++ segments.drop 3 = segments := List.take_append_drop 3 segments
  rcases Text.forall_or_first (fun a => ∃ n, Component a n) (segments.take 3) with
    hnumbers | ⟨before, segment, after, hsplit, hbefore, hsegment⟩
  · by_cases hcount : segments.length ≤ 3
    · rw [List.take_of_length_le hcount] at hnumbers
      obtain ⟨v, hv⟩ := exists_spelled hs.cuts.ne_nil hcount hnumbers
      cases hrange : v.outOfRange? with
      | none => exact ⟨_, .version hs hv (outOfRange?_eq_none_iff.mp hrange)⟩
      | some n => exact ⟨_, .outOfRange hs hv (outOfRange?_eq_some_iff.mp hrange)⟩
    · refine ⟨_, .tooManySegments (hwhole.symm ▸ hs) ?_ ?_ hnumbers⟩
      · rw [List.length_take]
        omega
      · rw [ne_eq, List.drop_eq_nil_iff]
        exact hcount
  · have hthree : before.length < 3 := by
      have hlength := congrArg List.length hsplit
      rw [List.length_take, List.length_append, List.length_cons] at hlength
      omega
    have hfault : before ++ segment :: (after ++ segments.drop 3) = segments := by
      rw [← List.cons_append, ← List.append_assoc, ← hsplit, hwhole]
    exact ⟨_, .invalidSegment (hfault ▸ hs) hthree hbefore hsegment (Text.trims_iff.mpr rfl)⟩

/-! ## What was read -/

/-- The components are numbers of 32 bits. -/
def Fits (v : Version) : Prop :=
  v.major < 2 ^ 32 ∧ (∀ m ∈ v.minor, m < 2 ^ 32) ∧ ∀ p ∈ v.patch, p < 2 ^ 32

/-- The text of the version shows all of it and is a text that can be read: there
is no patch without a minor, and both are in range. -/
structure Readable (v : Version) : Prop where
  patch_shown : v.minor = none → v.patch = none
  inRange : v.InRange

theorem Component.lt {segment : List Char} {n : Nat} (h : Component segment n) : n < 2 ^ 32 := by
  obtain ⟨t, -, hnumber⟩ := h
  exact hnumber.bound

theorem Spelled.fits {segments : List (List Char)} {v : Version} (h : Spelled segments v) :
    v.Fits ∧ (v.minor = none → v.patch = none) := by
  cases h with
  | major hx => exact ⟨⟨hx.lt, by simp, by simp⟩, fun _ => rfl⟩
  | minor hx hy => exact ⟨⟨hx.lt, by simpa using hy.lt, by simp⟩, fun _ => rfl⟩
  | patch hx hy hz => exact ⟨⟨hx.lt, by simpa using hy.lt, by simpa using hz.lt⟩, by simp⟩

theorem readable_of_parse {s : String} {v : Version} (h : parse s = .ok v) :
    v.Fits ∧ v.Readable := by
  obtain ⟨r, hr⟩ := exists_reads s
  rw [parse_of_reads hr] at h
  subst h
  cases hr with
  | version _ hspelled hrange =>
      obtain ⟨hfits, hshown⟩ := hspelled.fits
      exact ⟨hfits, hshown, hrange⟩

/-! ## The headline theorem -/

/-- **The grammar of versions.** A text is read as a version, or refused, exactly as the
rules of `Reads` say. Of several faults the first of these is named: the text is blank;
one of the first three segments is no number; there is a fourth segment, whatever it is;
minor or else patch has too many digits. Blanks count neither around the text nor around
a segment. -/
theorem parse_iff_reads (s : String) (r : Except VersionError Version) :
    parse s = r ↔ Reads s r := by
  constructor
  · rintro rfl
    obtain ⟨r, hr⟩ := exists_reads s
    rwa [parse_of_reads hr]
  · exact parse_of_reads

example : parse " 8 .00.\u20037\n" = .ok ⟨8, some 0, some 7⟩ := rfl

example : parse "8.0.100.x" = .error (.tooManySegments "8.0.100.x") := rfl

end SqlDialect.Version
