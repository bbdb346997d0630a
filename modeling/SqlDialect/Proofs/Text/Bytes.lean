import Mathlib.Tactic.SplitIfs
import SqlDialect.Text.Ascii

/-!
# Texts byte by byte

Texts are kept as bytes, and to read the bytes of a text is much less work than to
read its characters. For texts of ASCII it is enough: if every byte is the code of
an ASCII character of some kind, the characters are of that kind
(`forall_toNat_of_bytes`). The names in the tables are checked in this way.

The order of texts is that of their characters, and it is also that of their bytes
(`bytes_lt_bytes`), for all of Unicode: a character with a smaller code point is
encoded by bytes that come first, whatever follows them.
-/

namespace SqlDialect.Text

def bytes (s : String) : List UInt8 := s.toByteArray.data.toList

theorem bytes_eq_flatMap (s : String) : bytes s = s.toList.flatMap String.utf8EncodeChar := by
  have hencoded : s.toByteArray = (s.toList.flatMap String.utf8EncodeChar).toByteArray :=
    String.utf8Encode_toList.symm
  rw [bytes, hencoded, List.toList_data_toByteArray]

/-- A character is ASCII and a byte of its own, or it starts with a byte that is
not ASCII. -/
theorem exists_byte (c : Char) :
    ∃ b ∈ String.utf8EncodeChar c, b.toNat = c.toNat ∨ 0x80 ≤ b.toNat := by
  have hcode : c.val.toNat = c.toNat := rfl
  have hbyte : ∀ {n : Nat}, n < 256 → (UInt8.ofNat n).toNat = n := UInt8.toNat_ofNat_of_lt'
  have hlead : ∀ {n : Nat}, 0x80 ≤ n → n < 256 → 0x80 ≤ (UInt8.ofNat n).toNat := by
    intro n hge hlt
    rw [hbyte hlt]
    exact hge
  unfold String.utf8EncodeChar
  simp only [hcode]
  split
  · exact ⟨_, List.mem_cons_self .., Or.inl (hbyte (by omega))⟩
  · split
    · exact ⟨_, List.mem_cons_self .., Or.inr (hlead (by omega) (by omega))⟩
    · split
      · exact ⟨_, List.mem_cons_self .., Or.inr (hlead (by omega) (by omega))⟩
      · exact ⟨_, List.mem_cons_self .., Or.inr (hlead (by omega) (by omega))⟩

/-- What holds of all bytes of a text, and of no number beyond ASCII, holds of all
its characters. -/
theorem forall_toNat_of_bytes {P : Nat → Bool} (hascii : ∀ n, P n = true → n < 0x80) {s : String}
    (h : (bytes s).all (P ·.toNat) = true) : ∀ c ∈ s.toList, P c.toNat = true := by
  intro c hc
  obtain ⟨b, hb, hcode⟩ := exists_byte c
  have hbyte : P b.toNat = true := by
    refine List.all_eq_true.mp h b ?_
    rw [bytes_eq_flatMap]
    exact List.mem_flatMap.mpr ⟨c, hc, hb⟩
  rcases hcode with hsame | hbeyond
  · exact hsame ▸ hbyte
  · exact absurd (hascii _ hbyte) (Nat.not_lt_of_le hbeyond)

/-! ## Order -/

/-- Whatever follows them, `xs` comes before `ys`: where they first differ, the
byte of `xs` is smaller. -/
def Precedes (xs ys : List UInt8) : Prop := ∀ us vs, xs ++ us < ys ++ vs

theorem precedes_cons {m n : Nat} {xs ys : List UInt8} (hn : n < 256) (hle : m ≤ n)
    (htail : m = n → Precedes xs ys) : Precedes (UInt8.ofNat m :: xs) (UInt8.ofNat n :: ys) := by
  intro us vs
  rw [List.cons_append, List.cons_append, List.cons_lt_cons_iff]
  rcases Nat.lt_or_eq_of_le hle with hlt | heq
  · left
    rw [UInt8.lt_iff_toNat_lt, UInt8.toNat_ofNat_of_lt' (Nat.lt_trans hlt hn),
      UInt8.toNat_ofNat_of_lt' hn]
    exact hlt
  · right
    exact ⟨congrArg UInt8.ofNat heq, htail heq us vs⟩

theorem precedes_utf8EncodeChar {c d : Char} (h : c < d) :
    Precedes (String.utf8EncodeChar c) (String.utf8EncodeChar d) := by
  have hlt : c.val.toNat < d.val.toNat := h
  have hbound : d.val.toNat < 0x110000 := by
    rcases d.valid with hlow | hhigh
    · exact Nat.lt_trans hlow (by decide)
    · exact hhigh.2
  unfold String.utf8EncodeChar
  simp only
  generalize c.val.toNat = v at hlt
  generalize d.val.toNat = w at hlt hbound
  -- `c` takes as many bytes as `d`, and the digits decide, or fewer, and the first byte does
  split
  · split_ifs <;> exact precedes_cons (by omega) (by omega) fun _ => by omega
  · rw [if_neg (show ¬w ≤ 127 by omega)]
    split
    · split_ifs
      · exact precedes_cons (by omega) (by omega) fun _ =>
          precedes_cons (by omega) (by omega) fun _ => by omega
      · exact precedes_cons (by omega) (by omega) fun _ => by omega
      · exact precedes_cons (by omega) (by omega) fun _ => by omega
    · rw [if_neg (show ¬w ≤ 2047 by omega)]
      split
      · split
        · exact precedes_cons (by omega) (by omega) fun _ =>
            precedes_cons (by omega) (by omega) fun _ =>
              precedes_cons (by omega) (by omega) fun _ => by omega
        · exact precedes_cons (by omega) (by omega) fun _ => by omega
      · rw [if_neg (show ¬w ≤ 65535 by omega)]
        exact precedes_cons (by omega) (by omega) fun _ =>
          precedes_cons (by omega) (by omega) fun _ =>
            precedes_cons (by omega) (by omega) fun _ =>
              precedes_cons (by omega) (by omega) fun _ => by omega

theorem flatMap_utf8EncodeChar_lt {cs ds : List Char} (h : List.Lex (· < ·) cs ds) :
    cs.flatMap String.utf8EncodeChar < ds.flatMap String.utf8EncodeChar := by
  induction h with
  | @nil d ds =>
      obtain ⟨b, hb, -⟩ := exists_byte d
      obtain ⟨x, xs, hencoded⟩ := List.exists_cons_of_ne_nil (List.ne_nil_of_mem hb)
      rw [List.flatMap_nil, List.flatMap_cons, hencoded]
      exact List.nil_lt_cons _ _
  | rel hlt => exact precedes_utf8EncodeChar hlt _ _
  | cons _ ih => exact List.append_left_lt ih

theorem bytes_lt_bytes {s t : String} (h : s < t) : bytes s < bytes t := by
  rw [bytes_eq_flatMap, bytes_eq_flatMap]
  exact flatMap_utf8EncodeChar_lt h

end SqlDialect.Text
