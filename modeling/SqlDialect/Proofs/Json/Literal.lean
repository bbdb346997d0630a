import SqlDialect.Json.Literal

/-!
# Written literals are read back

What `Json.quoted` writes is read as the same text, whatever its characters are
and whatever stands after the closing quote (`Json.readLiteral_quoted`).

A character is written as one piece of a literal: itself, a short escape, or the
number of a control character. A control character is no half of a surrogate
pair, so its piece is put together on its own, whatever piece comes next.
-/

namespace SqlDialect.Json

/-! ## Hexadecimal digits -/

theorem hexValue?_hexDigit {n : Nat} (hn : n < 16) : hexValue? (hexDigit n) = some n := by
  have hall : ∀ m < 16, hexValue? (hexDigit m) = some m := by decide
  exact hall n hn

theorem hexNumber?_byte {n : Nat} (hn : n < 256) :
    hexNumber? ['0', '0', hexDigit (n / 16), hexDigit (n % 16)] = some n := by
  have hzero : hexValue? '0' = some 0 := by decide
  have hhigh := hexValue?_hexDigit (Nat.div_lt_of_lt_mul (show n < 16 * 16 from hn))
  have hlow := hexValue?_hexDigit (Nat.mod_lt n (show 0 < 16 by decide))
  simp only [hexNumber?, List.foldl_cons, List.foldl_nil, Option.bind_some, hzero, hhigh, hlow,
    Option.map_some, Option.some.injEq]
  omega

/-! ## One character -/

/-- A unit below the surrogates stands for a character on its own. -/
theorem assemble_unit {n : Nat} (hn : n < 0xD800) (ps : List Piece) :
    assemble (.unit n :: ps) = (assemble ps).map (Char.ofNat n :: ·) := by
  have hleading : isLeading n = false := by simp [isLeading]; omega
  have htrailing : isTrailing n = false := by simp [isTrailing]; omega
  rcases ps with - | ⟨- | l, ps⟩ <;> simp [assemble, hleading, htrailing]

/-- A piece stands for the character `c` wherever it is put. -/
def Piece.Gives (p : Piece) (c : Char) : Prop :=
  ∀ ps, assemble (p :: ps) = (assemble ps).map (c :: ·)

theorem Piece.char_gives (c : Char) : (Piece.char c).Gives c := by
  intro ps
  rw [assemble]

theorem Piece.unit_gives {c : Char} (hc : c.toNat < 0xD800) : (Piece.unit c.toNat).Gives c := by
  intro ps
  rw [assemble_unit hc, Char.ofNat_toNat]

/-- A character is written as a short escape, as a number if it is a control
character without one, and else as it is. -/
theorem escaped_cases (c : Char) :
    (∃ e, escape? e = some c ∧ escaped c = ['\\', e]) ∨
    (c.toNat < 0x20 ∧
      escaped c = ['\\', 'u', '0', '0', hexDigit (c.toNat / 16), hexDigit (c.toNat % 16)]) ∨
    (c ≠ '"' ∧ c ≠ '\\' ∧ ¬ c.toNat < 0x20 ∧ escaped c = [c]) := by
  by_cases hshort : c ∈ ['"', '\\', '\x08', '\x0c', '\n', '\x0d', '\t']
  · left
    simp only [List.mem_cons, List.not_mem_nil, or_false] at hshort
    rcases hshort with rfl | rfl | rfl | rfl | rfl | rfl | rfl <;> exact ⟨_, rfl, rfl⟩
  · right
    simp only [List.mem_cons, List.not_mem_nil, or_false, not_or] at hshort
    obtain ⟨hquote, hslash, hb, hf, hn, hr, ht⟩ := hshort
    simp only [escaped, hquote, hslash, hb, hf, hn, hr, ht, if_false]
    by_cases hcontrol : c.toNat < 0x20 <;> simp [hcontrol, hquote, hslash]

theorem scan_short {e c : Char} (he : escape? e = some c) (rest : List Char) :
    scan ('\\' :: e :: rest) = (scan rest).map fun (ps, left) => (.char c :: ps, left) := by
  have hu : e ≠ 'u' := by
    rintro rfl
    cases he
  rw [scan, he, Option.bind_some]
  exact fun _ _ _ _ _ h => absurd h hu

theorem scan_plain {c : Char} (hquote : c ≠ '"') (hslash : c ≠ '\\') (hc : ¬ c.toNat < 0x20)
    (rest : List Char) :
    scan (c :: rest) = (scan rest).map fun (ps, left) => (.char c :: ps, left) := by
  rw [scan, if_neg (not_or.mpr ⟨hc, hslash⟩)]
  · exact hquote
  · exact fun _ _ _ _ _ h => absurd h hslash
  · exact fun _ _ h => absurd h hslash

/-- What is written for a character is one piece, and that piece gives the
character. -/
theorem scan_escaped (c : Char) :
    ∃ p : Piece, p.Gives c ∧
      ∀ rest, scan (escaped c ++ rest) = (scan rest).map fun (ps, left) => (p :: ps, left) := by
  rcases escaped_cases c with ⟨e, he, hc⟩ | ⟨hcontrol, hc⟩ | ⟨hquote, hslash, hcontrol, hc⟩
  · refine ⟨.char c, Piece.char_gives c, fun rest => ?_⟩
    rw [hc]
    exact scan_short he rest
  · refine ⟨.unit c.toNat, Piece.unit_gives (by omega), fun rest => ?_⟩
    have hnumber := hexNumber?_byte (show c.toNat < 256 by omega)
    simp only [hc, List.cons_append, List.nil_append, scan, hnumber, Option.bind_some]
  · refine ⟨.char c, Piece.char_gives c, fun rest => ?_⟩
    rw [hc]
    exact scan_plain hquote hslash hcontrol rest

/-! ## Literals -/

/-- The pieces of what is written give the characters that were written. -/
theorem scan_flatMap_escaped (cs : List Char) :
    ∃ ps, assemble ps = some cs ∧
      ∀ rest, scan (cs.flatMap escaped ++ '"' :: rest) = some (ps, rest) := by
  induction cs with
  | nil => exact ⟨[], by rw [assemble], fun rest => by simp [scan]⟩
  | cons c cs ih =>
      obtain ⟨p, hp, hscan⟩ := scan_escaped c
      obtain ⟨ps, hps, hrest⟩ := ih
      refine ⟨p :: ps, by rw [hp, hps, Option.map_some], fun rest => ?_⟩
      rw [List.flatMap_cons, List.append_assoc, hscan, hrest, Option.map_some]

theorem toList_quoted (s : String) :
    (quoted s).toList = '"' :: (s.toList.flatMap escaped ++ ['"']) := by
  simp [quoted]

theorem readLiteral_quoted (s : String) (rest : List Char) :
    readLiteral (s.toList.flatMap escaped ++ '"' :: rest) = some (some s, rest) := by
  obtain ⟨ps, hps, hscan⟩ := scan_flatMap_escaped s.toList
  rw [readLiteral, hscan, Option.map_some]
  simp only [hps, Option.map_some, String.ofList_toList]

end SqlDialect.Json
