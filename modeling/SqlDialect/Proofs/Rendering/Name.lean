import SqlDialect.Rendering
import SqlDialect.Proofs.Platform.Words
import SqlDialect.Proofs.Text.Quoted

/-!
# Names

A name is written bare or between quotes, and whoever reads it under the same
settings (`Settings.readName`) finds the name in either form: a bare name cannot
begin with a quote, as no quote can stand in it, and a quoted name does. What
follows must not prolong the name, as another quote or another character of a bare
name would (`Settings.readName_renderName`).

When a name is left bare is said by `Settings.renderName_eq_self_iff` and
`Settings.needsQuotes_eq_false_iff`: never when it is a reserved word of the
platform in any case, so that no bare reserved word is ever written.
-/

namespace SqlDialect.Settings

/-! ## Characters of bare names -/

/-- A letter, a digit, `_` or `$`. -/
def BareChar (c : Char) : Prop :=
  (0x41 ≤ c.toNat ∧ c.toNat ≤ 0x5A) ∨ (0x61 ≤ c.toNat ∧ c.toNat ≤ 0x7A)
    ∨ (0x30 ≤ c.toNat ∧ c.toNat ≤ 0x39) ∨ c = '_' ∨ c = '$'

instance : DecidablePred BareChar := fun c =>
  inferInstanceAs (Decidable ((0x41 ≤ c.toNat ∧ c.toNat ≤ 0x5A) ∨ _))

theorem isNameChar_iff {c : Char} : isNameChar c = true ↔ BareChar c := by
  simp [isNameChar, BareChar, Text.isUpperLetter, Text.isLowerLetter, Text.isDigit, or_assoc]

theorem isBlank_of_bareChar {c : Char} (h : BareChar c) : Text.isBlank c = false := by
  rcases h with hupper | hlower | hdigit | rfl | rfl
  · exact Text.isBlank_of_visible (by omega) (by omega)
  · exact Text.isBlank_of_visible (by omega) (by omega)
  · exact Text.isBlank_of_visible (by omega) (by omega)
  · decide
  · decide

theorem bareChar_of_flagNameChar {c : Char} (h : ModeFlag.isNameChar c = true) :
    BareChar c := by
  rcases ModeFlag.isNameChar_iff.mp h with hupper | hdigit | rfl
  · exact Or.inl hupper
  · exact Or.inr (Or.inr (Or.inl hdigit))
  · decide

/-- No quote can stand in a bare name. -/
theorem not_bareChar_quoteChar (s : Settings) : ¬BareChar s.quoteChar := by
  unfold quoteChar
  split
  · decide
  · cases s.platform.naming with
    | mysql => decide
    | mariaDb => decide
    | standard => decide

theorem isPlainName_iff {cs : List Char} :
    isPlainName cs = true ↔
      cs ≠ [] ∧ (∀ c ∈ cs, BareChar c) ∧ ¬∀ c ∈ cs, 0x30 ≤ c.toNat ∧ c.toNat ≤ 0x39 := by
  simp [isPlainName, isNameChar_iff, Text.isDigit, and_assoc]

/-! ## Reading names back -/

/-- The name at the front of a text, and what is left after it: a quoted name, or
the longest run of characters of bare names. -/
def readName (quote : Char) (cs : List Char) : Option (List Char × List Char) :=
  if cs.head? = some quote then Text.readQuoted quote false cs
  else some (cs.takeWhile (BareChar ·), cs.dropWhile (BareChar ·))

/-- A run of characters of bare names is read up to where it ends. -/
theorem readName_bare {q : Char} (hq : ¬BareChar q) {cs r : List Char}
    (hcs : ∀ c ∈ cs, BareChar c) (hquote : r.head? ≠ some q)
    (hend : ∀ c, r.head? = some c → ¬BareChar c) :
    readName q (cs ++ r) = some (cs, r) := by
  have hhead : (cs ++ r).head? ≠ some q := by
    cases cs with
    | nil => exact hquote
    | cons c cs =>
        intro heq
        obtain rfl : c = q := Option.some.inj heq
        exact hq (hcs c List.mem_cons_self)
  have hbare : ∀ c ∈ cs, decide (BareChar c) = true := fun c hc => decide_eq_true (hcs c hc)
  have htake : r.takeWhile (BareChar ·) = [] ∧ r.dropWhile (BareChar ·) = r := by
    cases r with
    | nil => exact ⟨rfl, rfl⟩
    | cons d r =>
        have hd := hend d rfl
        simp [hd]
  rw [readName, if_neg hhead, List.takeWhile_append_of_pos hbare,
    List.dropWhile_append_of_pos hbare, htake.1, htake.2, List.append_nil]

theorem readName_quoted {q : Char} {cs r : List Char} (hquote : r.head? ≠ some q) :
    readName q (Text.enclosed q [q] cs ++ r) = some (cs, r) := by
  have hdoubles : Text.Doubles q false [q] := by
    intro c
    simp
  have hhead : (Text.enclosed q [q] cs ++ r).head? = some q := rfl
  rw [readName, if_pos hhead, Text.readQuoted_enclosed hdoubles hquote]

theorem plain_of_not_needsQuotes {s : Settings} {name : String} (h : s.needsQuotes name = false) :
    isPlainName name.toList = true := by
  unfold needsQuotes at h
  rw [Bool.or_eq_false_iff, Bool.not_eq_false'] at h
  exact h.2

theorem readName_renderName (s : Settings) (name : String) {r : List Char}
    (hquote : r.head? ≠ some s.quoteChar) (hend : ∀ c, r.head? = some c → ¬BareChar c) :
    readName s.quoteChar ((s.renderName name).toList ++ r) = some (name.toList, r) := by
  unfold renderName
  split
  · rw [String.toList_ofList]
    exact readName_quoted hquote
  · rename_i hbare
    have hplain := plain_of_not_needsQuotes (Bool.eq_false_iff.mpr hbare)
    exact readName_bare s.not_bareChar_quoteChar (isPlainName_iff.mp hplain).2.1 hquote hend

theorem renderName_inj {s : Settings} {name name' : String}
    (h : s.renderName name = s.renderName name') : name = name' := by
  have hread : ∀ n, readName s.quoteChar ((s.renderName n).toList ++ []) = some (n.toList, []) :=
    fun n => s.readName_renderName n (by simp) (by simp)
  have hname := hread name
  rw [h, hread name', Option.some.injEq, Prod.mk.injEq] at hname
  exact String.toList_inj.mp hname.1.symm

/-! ## Bare names -/

theorem renderName_eq_self_iff {s : Settings} {name : String} :
    s.renderName name = name ↔ s.needsQuotes name = false := by
  unfold renderName
  split
  · rename_i hneeds
    rw [hneeds]
    refine iff_of_false (fun heq => ?_) (by simp)
    have hchars := congrArg String.toList heq
    rw [String.toList_ofList] at hchars
    exact Text.enclosed_ne _ _ _ hchars
  · rename_i hbare
    exact iff_of_true rfl (Bool.eq_false_iff.mpr hbare)

/-- What is left bare under settings for a platform of the library. -/
theorem needsQuotes_eq_false_iff {s : Settings} (hs : s.platform.Shipped) {name : String} :
    s.needsQuotes name = false ↔
      s.quoteAllNames = false ∧ isPlainName name.toList = true
        ∧ ∀ w ∈ s.platform.reservedWords, Text.sameName w name = false := by
  unfold needsQuotes
  rw [Bool.or_eq_false_iff, Bool.or_eq_false_iff, Bool.not_eq_false', and_assoc,
    and_comm (a := _ = false) (b := isPlainName _ = true)]
  refine and_congr_right fun _ => and_congr_right fun hplain => ?_
  -- a plain name has no blanks, so that the lookup is for the name itself
  have htrimmed : Text.trimmed name = name := by
    have hchars := (isPlainName_iff.mp hplain).2.1
    rw [Text.trimmed, Text.trim_eq_self fun c hc => isBlank_of_bareChar (hchars c hc),
      String.ofList_toList]
  rw [Bool.eq_false_iff, ne_eq, hs.isReserved_iff, htrimmed]
  simp

theorem not_sameName_quoted {s : Settings} (hs : s.platform.Shipped) {w : String}
    (hw : w ∈ s.platform.reservedWords) (cs : List Char) :
    Text.sameName w (String.ofList (Text.enclosed s.quoteChar [s.quoteChar] cs)) = false := by
  rw [Bool.eq_false_iff, ne_eq, Text.sameName_iff, hs.upper_reserved hw, Text.upper,
    String.toList_ofList]
  intro heq
  have hmem : Text.upperChar s.quoteChar ∈ w.toList := by
    rw [heq, String.toList_ofList]
    exact List.mem_map_of_mem List.mem_cons_self
  have hupper : Text.upperChar s.quoteChar = s.quoteChar := by
    have hletter : Text.isLowerLetter s.quoteChar = false := by
      refine Bool.eq_false_iff.mpr fun hlower => s.not_bareChar_quoteChar (Or.inr (Or.inl ?_))
      simpa [Text.isLowerLetter] using hlower
    simp [Text.upperChar, hletter]
  have hbare := bareChar_of_flagNameChar (hs.nameChar_of_reserved hw _ hmem)
  rw [hupper] at hbare
  exact s.not_bareChar_quoteChar hbare

/-! ## The headline theorem -/

/-- **Names survive being written.** A written name is read as that name, whatever
follows it, unless that prolongs it; so different names are written differently. On
a platform of the library a name is left as it is exactly when not all names are
quoted, it could be read as a name and not as a number, and it is no reserved word in
any case; so no reserved word is ever written bare. -/
theorem names_survive (s : Settings) :
    (∀ (name : String) (r : List Char), r.head? ≠ some s.quoteChar →
      (∀ c, r.head? = some c → ¬BareChar c) →
      readName s.quoteChar ((s.renderName name).toList ++ r) = some (name.toList, r))
    ∧ (∀ name name', s.renderName name = s.renderName name' → name = name')
    ∧ (s.platform.Shipped →
      (∀ name, s.renderName name = name ↔
        s.quoteAllNames = false
        ∧ name.toList ≠ []
        ∧ (∀ c ∈ name.toList, BareChar c)
        ∧ ¬(∀ c ∈ name.toList, 0x30 ≤ c.toNat ∧ c.toNat ≤ 0x39)
        ∧ ∀ w ∈ s.platform.reservedWords, Text.sameName w name = false)
      ∧ ∀ name, ∀ w ∈ s.platform.reservedWords, Text.sameName w (s.renderName name) = false) := by
  refine ⟨fun name r hquote hend => s.readName_renderName name hquote hend,
    fun name name' => renderName_inj, fun hs => ⟨fun name => ?_, fun name w hw => ?_⟩⟩
  · rw [renderName_eq_self_iff, needsQuotes_eq_false_iff hs, isPlainName_iff]
    simp only [and_assoc]
  · by_cases hneeds : s.needsQuotes name = true
    · rw [renderName, if_pos hneeds]
      exact not_sameName_quoted hs hw _
    · have hbare := Bool.eq_false_iff.mpr hneeds
      rw [renderName_eq_self_iff.mpr hbare]
      exact ((needsQuotes_eq_false_iff hs).mp hbare).2.2 w hw

/-- Under `ANSI` on MySQL 8.0, where the group makes `"` the quote: a name with
quotes at both ends is read back from before a dot, `Selected` is left bare, and
`Select` is not, as `SELECT` is reserved. -/
theorem names_survive_ansi :
    ∃ p s, Platform.build Catalog.shipped .mysql ⟨8, some 0, none⟩ = .ok p
      ∧ s = { ofPlatform p with mode := .ofFlag .ansi, quoteAllNames := false }
      ∧ s.platform.Shipped
      ∧ readName '"' ((s.renderName "\"a\"").toList ++ ['.', 'b']) = some ("\"a\"".toList, ['.', 'b'])
      ∧ s.renderName "Selected" = "Selected"
      ∧ s.renderName "Select" ≠ "Select" := by
  obtain ⟨p, hp⟩ := Platform.build_shipped (f := .mysql) rfl ⟨8, some 0, none⟩
  obtain ⟨layers, hlayers, hcapabilities⟩ := Platform.build_capabilities hp
  obtain rfl : [⟨Catalog.shipped.mysql, 80099⟩] = layers := Except.ok.inj hlayers
  have hshipped : p.Shipped := ⟨_, _, p, p.current, hp, rfl⟩
  have hansi : (Mode.ofFlag .ansi).contains .ansiQuotes = true := by decide +kernel
  have hplain : isPlainName "Selected".toList = true := by decide +kernel
  obtain ⟨hne, hchars, hdigits⟩ := isPlainName_iff.mp hplain
  have hdot : ∀ c, ['.', 'b'].head? = some c → ¬BareChar c := by
    rintro c ⟨⟩
    decide
  obtain ⟨hread, -, hbare⟩ :=
    names_survive { ofPlatform p with mode := .ofFlag .ansi, quoteAllNames := false }
  obtain ⟨hself, -⟩ := hbare hshipped
  rw [quoteChar, if_pos hansi] at hread
  refine ⟨p, _, hp, rfl, hshipped, hread _ _ (by decide) hdot, ?_, fun heq => ?_⟩
  · refine (hself _).mpr ⟨rfl, hne, hchars, hdigits, ?_⟩
    have hfree : ¬p.isReserved "Selected" = true := by
      rw [Platform.isReserved, hcapabilities]
      decide +kernel
    intro w hw
    exact Bool.eq_false_iff.mpr fun hsame => hfree (hshipped.isReserved_iff.mpr ⟨w, hw, hsame⟩)
  · obtain ⟨-, -, -, -, hfree⟩ := (hself _).mp heq
    have hreserved : "SELECT" ∈ p.reservedWords := by
      rw [Platform.mem_reservedWords, hcapabilities]
      decide +kernel
    exact absurd (hfree _ hreserved) (by decide +kernel)

end SqlDialect.Settings
