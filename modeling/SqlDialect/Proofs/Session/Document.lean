import Mathlib.Data.List.Nodup
import SqlDialect.Proofs.Json.Object
import SqlDialect.Proofs.Session.Field
import SqlDialect.Session.Json

/-!
# Sessions as documents

A document that lists fields with their values gives a session exactly when it
describes the session (`Session.ofJson_eq_ok_iff`): the order of the fields and the
blanks do not count, a field that is unset may be `null` or left out, and the family may
be left out if it is the default. What is written for a session is such a document
(`Session.document_toJson`), so it is read as the session (`Session.json_reads_back`).
-/

namespace SqlDialect

/-! ## Values -/

namespace FieldValue

/-- The value of the field in a document that names it. -/
def toJson : FieldValue → Json
  | .unset => .null
  | .text s => .string (some s)
  | .switch b => .bool b

theorem ofJson?_eq_some_iff {j : Json} {v : FieldValue} : ofJson? j = some v ↔ j = v.toJson := by
  constructor
  · intro hj
    cases j with
    | null => cases hj; rfl
    | bool b => cases hj; rfl
    | string content =>
        cases content with
        | none => cases hj
        | some s => cases hj; rfl
    | number | array | object => cases hj
  · rintro rfl
    cases v <;> rfl

theorem plain_of_json? {v : FieldValue} {text : String} (hv : v.json? = some text) :
    Json.Plain v.toJson text.toList := by
  rcases v with - | s | - | -
  · cases hv
  · obtain rfl := Option.some.inj hv
    exact .string s
  · obtain rfl := Option.some.inj hv
    exact .false
  · obtain rfl := Option.some.inj hv
    exact .true

theorem json?_eq_none_iff {v : FieldValue} : v.json? = none ↔ v = .unset := by
  rcases v with - | s | - | - <;> simp [json?]

end FieldValue

namespace Session

/-! ## Reading -/

def member (p : SessionField × FieldValue) : Option String × Json := (some p.1.name, p.2.toJson)

theorem jsonMember?_eq_some_iff {m : Option String × Json} {p : SessionField × FieldValue} :
    jsonMember? m = some p ↔ m = member p := by
  obtain ⟨f, v⟩ := p
  rcases m with ⟨- | key, value⟩
  · simp [jsonMember?, member]
  · simp [jsonMember?, member, Option.bind_eq_some_iff, SessionField.named?_eq_some_iff,
      FieldValue.ofJson?_eq_some_iff]

theorem mapM_jsonMember?_eq_some_iff {ms : List (Option String × Json)} :
    ∀ {fields : List (SessionField × FieldValue)},
      ms.mapM jsonMember? = some fields ↔ ms = fields.map member := by
  induction ms with
  | nil => simp [eq_comm]
  | cons m ms ih =>
      intro fields
      cases fields with
      | nil => simp [List.mapM_cons, Option.bind_eq_some_iff]
      | cons p fields =>
          simp [List.mapM_cons, Option.bind_eq_some_iff, jsonMember?_eq_some_iff, ih]

theorem ofJson_eq_ok_iff {ms : List (Option String × Json)} {d : String}
    (hdoc : Json.Document ms d) {s : Session} :
    ofJson d = .ok s ↔ ∃ fields, ms = fields.map member ∧ s.DescribedBy fields := by
  have hvalue : ofJson d = .ok s ↔ ofJsonValue? (.object ms) = some s := by
    rw [ofJson, Json.read?_document hdoc, Option.bind_some]
    cases ofJsonValue? (.object ms) <;> simp
  simp only [hvalue, ofJsonValue?, Option.bind_eq_some_iff, mapM_jsonMember?_eq_some_iff,
    ofFields?_eq_some_iff]

/-! ## Writing -/

/-- The fields that are written, each with the text of its value. -/
def written (s : Session) : List (SessionField × String) :=
  SessionField.all.filterMap fun f => (s.get f).json?.map fun text => (f, text)

theorem mem_written {s : Session} {p : SessionField × String} :
    p ∈ s.written ↔ (s.get p.1).json? = some p.2 := by
  obtain ⟨f, text⟩ := p
  simp [written, SessionField.mem_all]

theorem nodup_written (s : Session) : (s.written.map (·.1)).Nodup := by
  rw [written, List.map_filterMap]
  refine List.Nodup.filterMap (fun f g h hf hg => ?_) (show SessionField.all.Nodup by decide)
  simp only [Option.map_map, Option.mem_def, Option.map_eq_some_iff, Function.comp_apply] at hf hg
  obtain ⟨-, -, rfl⟩ := hf
  obtain ⟨-, -, rfl⟩ := hg
  rfl

theorem written_ne_nil (s : Session) : s.written ≠ [] := by
  have hfamily : (SessionField.family, Json.quoted s.family) ∈ s.written := mem_written.mpr rfl
  exact List.ne_nil_of_mem hfamily

/-- The fields that are written describe the session: the others are unset. -/
theorem describedBy_written (s : Session) :
    s.DescribedBy (s.written.map fun p => (p.1, s.get p.1)) where
  nodup := by
    rw [List.map_map]
    exact s.nodup_written
  said := by
    intro p hp
    obtain ⟨q, -, rfl⟩ := List.mem_map.mp hp
    rfl
  unsaid := by
    intro f hf
    have hunset : s.get f = .unset := by
      rw [← FieldValue.json?_eq_none_iff, Option.eq_none_iff_forall_ne_some]
      intro text htext
      refine hf ?_
      rw [List.map_map]
      exact List.mem_map.mpr ⟨(f, text), mem_written.mpr htext, rfl⟩
    rw [hunset]
    cases f with
    | family => cases hunset
    | _ => rfl

def line (p : SessionField × String) : List Char :=
  [' ', ' '] ++ (Json.quoted p.1.name).toList ++ [':', ' '] ++ p.2.toList

theorem toList_toJson (s : Session) :
    s.toJson.toList = '\x7b' :: ('\n' :: ([',', '\n'].intercalate (s.written.map line) ++ ['\n'])
      ++ ['\x7d']) := by
  have hlines : (SessionField.all.filterMap s.jsonLine?).map String.toList
      = s.written.map line := by
    rw [written, List.map_filterMap, List.map_filterMap]
    refine List.filterMap_congr fun f _ => ?_
    rw [jsonLine?]
    cases (s.get f).json? with
    | none => rfl
    | some text => simp only [Option.map_some, String.toList_append]; rfl
  rw [toJson, String.toList_append, String.toList_append, String.toList_intercalate, hlines]
  show ['\x7b', '\n'] ++ _ ++ ['\n', '\x7d'] = _
  simp

theorem member_line {s : Session} {p : SessionField × String}
    (hp : (s.get p.1).json? = some p.2) {trail : List Char} (htrail : Json.Blank trail) :
    Json.Member (member (p.1, s.get p.1)) ('\n' :: (line p ++ trail)) := by
  have hmember : Json.Member (member (p.1, s.get p.1)) _ :=
    .mk (show Json.Blank ['\n', ' ', ' '] by decide) (show Json.Blank [] by decide)
      (show Json.Blank [' '] by decide) htrail (FieldValue.plain_of_json? hp)
  simpa [line] using hmember

theorem members_lines {s : Session} {ps : List (SessionField × String)} (hne : ps ≠ [])
    (hps : ∀ p ∈ ps, (s.get p.1).json? = some p.2) :
    Json.Members (ps.map fun p => member (p.1, s.get p.1))
      ('\n' :: ([',', '\n'].intercalate (ps.map line) ++ ['\n'])) := by
  induction ps with
  | nil => exact absurd rfl hne
  | cons p ps ih =>
      obtain ⟨hp, hrest⟩ := List.forall_mem_cons.mp hps
      cases ps with
      | nil =>
          have hlast := Json.Members.last (member_line hp (show Json.Blank ['\n'] by decide))
          simpa using hlast
      | cons q ps =>
          have hcons := Json.Members.cons (member_line hp (show Json.Blank [] by decide))
            (ih (List.cons_ne_nil q ps) hrest)
          simpa using hcons

theorem document_toJson (s : Session) :
    Json.Document ((s.written.map fun p => (p.1, s.get p.1)).map member) s.toJson := by
  have hmembers := members_lines s.written_ne_nil fun p hp => mem_written.mp hp
  have hdoc := Json.Document.mk (show Json.Blank [] by decide) (.members hmembers)
    (show Json.Blank [] by decide)
  rw [List.nil_append, List.append_nil, ← toList_toJson, String.ofList_toList] at hdoc
  rw [List.map_map]
  exact hdoc

/-! ## Round trip -/

theorem ofJson_toJson (s : Session) : ofJson s.toJson = .ok s :=
  (ofJson_eq_ok_iff s.document_toJson).mpr ⟨_, rfl, s.describedBy_written⟩

/-- What is written for a session is read as the session. So it is for a session that
was read from any other document, and a document that is an object is read as the session
that its members describe, in whatever order and with whatever blanks it lists them, whether
it says of a field that it is unset or does not name it. -/
theorem json_reads_back :
    (∀ s : Session, ofJson s.toJson = .ok s)
      ∧ (∀ (d : String) (s : Session), ofJson d = .ok s → ofJson s.toJson = ofJson d)
      ∧ ∀ (ms : List (Option String × Json)) (d : String), Json.Document ms d →
        ∀ s : Session, ofJson d = .ok s ↔
          ∃ fields, ms = fields.map member ∧ s.DescribedBy fields := by
  refine ⟨ofJson_toJson, fun d s hd => ?_, fun ms d hdoc s => ofJson_eq_ok_iff hdoc⟩
  rw [hd, ofJson_toJson]

/-- The fields out of order and with odd blanks, a mode that is `null`, and characters
in the family that have to be escaped. -/
theorem json_reads_back_out_of_order :
    let d := "\t\x7b\"optional_equals\":true ,\n\"sql_mode\" : null,\"family\": \"a\\\"\\u0001\"\x7d\n"
    let s := { ofFamily "a\"\x01" with optionalEquals := some true }
    ofJson d = .ok s ∧ ofJson s.toJson = ofJson d := by
  intro d s
  let fields : List (SessionField × FieldValue) :=
    [(.optionalEquals, .switch true), (.mode, .unset), (.family, .text "a\"\x01")]
  have hdescribed : s.DescribedBy fields :=
    ⟨by decide, by decide, fun f => by cases f <;> decide⟩
  have hequals : Json.Member (member (.optionalEquals, .switch true)) _ :=
    @Json.Member.mk _ _ _ [] [] [] [' '] (by decide) (by decide) (by decide) (by decide) .true
  have hmode : Json.Member (member (.mode, .unset)) _ :=
    @Json.Member.mk _ _ _ ['\n'] [' '] [' '] [] (by decide) (by decide) (by decide) (by decide) .null
  have hfamily : Json.Member (member (.family, .text "a\"\x01")) _ :=
    @Json.Member.mk _ _ _ [] [] [' '] [] (by decide) (by decide) (by decide) (by decide) (.string _)
  have hdoc : Json.Document (fields.map member) d :=
    @Json.Document.mk _ ['\t'] _ ['\n'] (by decide)
      (.members (.cons hequals (.cons hmode (.last hfamily)))) (by decide)
  have hread := (json_reads_back.2.2 _ d hdoc s).mpr ⟨fields, rfl, hdescribed⟩
  exact ⟨hread, json_reads_back.2.1 d s hread⟩

end Session

end SqlDialect
