import SqlDialect.Rendering
import SqlDialect.Proofs.Mode.RoundTrip
import SqlDialect.Proofs.Platform.Build
import SqlDialect.Proofs.Text.Quoted

/-!
# String literals

Whoever reads SQL under the same settings (`Settings.readString`) finds in a string
literal the text for which it was written, and finds its end where it was put: no
text can close its literal early or run on into what follows
(`Settings.readString_renderString`). What the backslash means to the reader depends
on the mode alone.
-/

namespace SqlDialect.Settings

/-- The string literal at the front of a text, and what is left after it. The
backslash escapes unless the mode has `NO_BACKSLASH_ESCAPES`. -/
def readString (s : Settings) (cs : List Char) : Option (List Char × List Char) :=
  Text.readQuoted Text.apostrophe (!s.mode.contains .noBackslashEscapes) cs

/-- What is doubled in string literals is what their reader does not take as it
stands. -/
theorem doubles_strings (s : Settings) :
    Text.Doubles Text.apostrophe (!s.mode.contains .noBackslashEscapes) s.doubledInStrings := by
  intro c
  unfold doubledInStrings backslashEscapes
  cases s.mode.contains .noBackslashEscapes with
  | true => simp
  | false => simp

theorem readString_renderString (s : Settings) (v : String) {r : List Char}
    (hr : r.head? ≠ some Text.apostrophe) :
    s.readString ((s.renderString v).toList ++ r) = some (v.toList, r) := by
  rw [readString, renderString, String.toList_ofList]
  exact Text.readQuoted_enclosed s.doubles_strings hr v.toList

theorem readString_renderString_end (s : Settings) (v : String) :
    s.readString (s.renderString v).toList = some (v.toList, []) := by
  have hread := s.readString_renderString v (r := []) (by simp)
  rwa [List.append_nil] at hread

/-! ## The headline theorem -/

/-- **String literals stay closed.** Under any settings a literal is read as the
text for which it was written, whatever follows it, unless that starts with an
apostrophe; so different texts have different literals. A mode that is written
as a literal is read back from it. -/
theorem string_literals_read_back (s : Settings) :
    (∀ (v : String) (r : List Char), r.head? ≠ some Text.apostrophe →
      s.readString ((s.renderString v).toList ++ r) = some (v.toList, r))
    ∧ (∀ v w, s.renderString v = s.renderString w → v = w)
    ∧ (∀ m, Mode.Reachable m → ∃ t : String,
      s.readString (s.renderMode m).toList = some (t.toList, []) ∧ Mode.parse t = .ok m) := by
  refine ⟨fun v r hr => s.readString_renderString v hr, fun v w h => ?_, fun m hm => ?_⟩
  · have hv := s.readString_renderString_end v
    rw [h, s.readString_renderString_end w, Option.some.injEq, Prod.mk.injEq] at hv
    exact String.toList_inj.mp hv.1.symm
  · exact ⟨m.text, s.readString_renderString_end m.text, hm.formed.parseWith_text none⟩

/-- A text that ends in an apostrophe and a backslash, before another literal:
the backslash is doubled, or under `NO_BACKSLASH_ESCAPES` left as it is, and in
both modes the literal ends where it should. -/
theorem string_literals_read_back_trailing_backslash :
    ∃ p s t, Platform.build Catalog.shipped .mysql ⟨8, some 0, none⟩ = .ok p
      ∧ s = { ofPlatform p with mode := .empty }
      ∧ t = { ofPlatform p with mode := .ofFlag .noBackslashEscapes }
      ∧ s.renderString "a\x27\\" = "\x27a\x27\x27\\\\\x27"
      ∧ t.renderString "a\x27\\" = "\x27a\x27\x27\\\x27"
      ∧ ∀ x ∈ [s, t],
        x.readString ((x.renderString "a\x27\\").toList ++ ", \x27b\x27".toList)
            = some ("a\x27\\".toList, ", \x27b\x27".toList)
        ∧ ∃ m : String, x.readString (x.renderMode (.ofFlag .ansi)).toList = some (m.toList, [])
          ∧ Mode.parse m = .ok (.ofFlag .ansi) := by
  obtain ⟨p, hp⟩ := Platform.build_shipped (f := .mysql) rfl ⟨8, some 0, none⟩
  have hescapes : Mode.empty.contains .noBackslashEscapes = false := by decide +kernel
  have hplain : (Mode.ofFlag .noBackslashEscapes).contains .noBackslashEscapes = true := by
    decide +kernel
  refine ⟨p, _, _, hp, rfl, rfl, ?_, ?_, fun x _ => ?_⟩
  · rw [renderString, doubledInStrings, backslashEscapes, hescapes]
    decide +kernel
  · rw [renderString, doubledInStrings, backslashEscapes, hplain]
    decide +kernel
  · obtain ⟨hread, -, hmode⟩ := string_literals_read_back x
    exact ⟨hread _ _ (by decide), hmode _ (.ofFlag _)⟩

end SqlDialect.Settings
