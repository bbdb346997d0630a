import SqlDialect.Charset.Basic

/-!
# Collations

A collation orders the texts of one character set. The catalog has the default
and the binary collation of every character set and the alternatives in common
use, by number. The collation of raw bytes goes with every character set.
-/

namespace SqlDialect

structure Collation where
  name : String
  charset : Charset
  id : Nat
deriving Repr, DecidableEq

namespace Collation

def binaryBytes : Collation := ⟨"binary", .binary, 63⟩

def catalog : List Collation :=
  [⟨"big5_chinese_ci", .big5, 1⟩, ⟨"latin2_czech_cs", .latin2, 2⟩,
   ⟨"dec8_swedish_ci", .dec8, 3⟩, ⟨"cp850_general_ci", .cp850, 4⟩,
   ⟨"latin1_german1_ci", .latin1, 5⟩, ⟨"hp8_english_ci", .hp8, 6⟩,
   ⟨"koi8r_general_ci", .koi8r, 7⟩, ⟨"latin1_swedish_ci", .latin1, 8⟩,
   ⟨"latin2_general_ci", .latin2, 9⟩, ⟨"swe7_swedish_ci", .swe7, 10⟩,
   ⟨"ascii_general_ci", .ascii, 11⟩, ⟨"ujis_japanese_ci", .ujis, 12⟩,
   ⟨"sjis_japanese_ci", .sjis, 13⟩, ⟨"cp1251_bulgarian_ci", .cp1251, 14⟩,
   ⟨"latin1_danish_ci", .latin1, 15⟩, ⟨"hebrew_general_ci", .hebrew, 16⟩,
   ⟨"tis620_thai_ci", .tis620, 18⟩, ⟨"euckr_korean_ci", .euckr, 19⟩,
   ⟨"latin7_estonian_cs", .latin7, 20⟩, ⟨"latin2_hungarian_ci", .latin2, 21⟩,
   ⟨"koi8u_general_ci", .koi8u, 22⟩, ⟨"cp1251_ukrainian_ci", .cp1251, 23⟩,
   ⟨"gb2312_chinese_ci", .gb2312, 24⟩, ⟨"greek_general_ci", .greek, 25⟩,
   ⟨"cp1250_general_ci", .cp1250, 26⟩, ⟨"gbk_chinese_ci", .gbk, 28⟩,
   ⟨"latin5_turkish_ci", .latin5, 30⟩, ⟨"latin1_german2_ci", .latin1, 31⟩,
   ⟨"armscii8_general_ci", .armscii8, 32⟩, ⟨"utf8_general_ci", .utf8, 33⟩,
   ⟨"cp1250_czech_cs", .cp1250, 34⟩, ⟨"ucs2_general_ci", .ucs2, 35⟩,
   ⟨"cp866_general_ci", .cp866, 36⟩, ⟨"keybcs2_general_ci", .keybcs2, 37⟩,
   ⟨"macce_general_ci", .macce, 38⟩, ⟨"macroman_general_ci", .macroman, 39⟩,
   ⟨"cp852_general_ci", .cp852, 40⟩, ⟨"latin7_general_ci", .latin7, 41⟩,
   ⟨"macce_bin", .macce, 43⟩, ⟨"cp1250_croatian_ci", .cp1250, 44⟩,
   ⟨"utf8mb4_general_ci", .utf8mb4, 45⟩, ⟨"utf8mb4_bin", .utf8mb4, 46⟩,
   ⟨"latin1_bin", .latin1, 47⟩, ⟨"latin1_general_ci", .latin1, 48⟩,
   ⟨"latin1_general_cs", .latin1, 49⟩, ⟨"cp1251_bin", .cp1251, 50⟩,
   ⟨"cp1251_general_ci", .cp1251, 51⟩, ⟨"macroman_bin", .macroman, 53⟩,
   ⟨"utf16_general_ci", .utf16, 54⟩, ⟨"utf16_bin", .utf16, 55⟩,
   ⟨"utf16le_general_ci", .utf16le, 56⟩, ⟨"cp1256_general_ci", .cp1256, 57⟩,
   ⟨"cp1257_bin", .cp1257, 58⟩, ⟨"cp1257_general_ci", .cp1257, 59⟩,
   ⟨"utf32_general_ci", .utf32, 60⟩, ⟨"utf32_bin", .utf32, 61⟩, ⟨"utf16le_bin", .utf16le, 62⟩,
   binaryBytes, ⟨"armscii8_bin", .armscii8, 64⟩, ⟨"ascii_bin", .ascii, 65⟩,
   ⟨"cp1250_bin", .cp1250, 66⟩, ⟨"cp1256_bin", .cp1256, 67⟩, ⟨"cp866_bin", .cp866, 68⟩,
   ⟨"dec8_bin", .dec8, 69⟩, ⟨"greek_bin", .greek, 70⟩, ⟨"hebrew_bin", .hebrew, 71⟩,
   ⟨"hp8_bin", .hp8, 72⟩, ⟨"keybcs2_bin", .keybcs2, 73⟩, ⟨"koi8r_bin", .koi8r, 74⟩,
   ⟨"koi8u_bin", .koi8u, 75⟩, ⟨"latin2_bin", .latin2, 77⟩, ⟨"latin5_bin", .latin5, 78⟩,
   ⟨"latin7_bin", .latin7, 79⟩, ⟨"cp850_bin", .cp850, 80⟩, ⟨"cp852_bin", .cp852, 81⟩,
   ⟨"swe7_bin", .swe7, 82⟩, ⟨"utf8_bin", .utf8, 83⟩, ⟨"big5_bin", .big5, 84⟩,
   ⟨"euckr_bin", .euckr, 85⟩, ⟨"gb2312_bin", .gb2312, 86⟩, ⟨"gbk_bin", .gbk, 87⟩,
   ⟨"sjis_bin", .sjis, 88⟩, ⟨"tis620_bin", .tis620, 89⟩, ⟨"ucs2_bin", .ucs2, 90⟩,
   ⟨"ujis_bin", .ujis, 91⟩, ⟨"geostd8_general_ci", .geostd8, 92⟩, ⟨"geostd8_bin", .geostd8, 93⟩,
   ⟨"latin1_spanish_ci", .latin1, 94⟩, ⟨"cp932_japanese_ci", .cp932, 95⟩,
   ⟨"cp932_bin", .cp932, 96⟩, ⟨"eucjpms_japanese_ci", .eucjpms, 97⟩,
   ⟨"eucjpms_bin", .eucjpms, 98⟩, ⟨"cp1250_polish_ci", .cp1250, 99⟩,
   ⟨"utf16_unicode_ci", .utf16, 101⟩, ⟨"ucs2_unicode_ci", .ucs2, 128⟩,
   ⟨"utf32_unicode_ci", .utf32, 160⟩, ⟨"utf8_unicode_ci", .utf8, 192⟩,
   ⟨"utf8_general_mysql500_ci", .utf8, 223⟩, ⟨"utf8mb4_unicode_ci", .utf8mb4, 224⟩,
   ⟨"utf8mb4_unicode_520_ci", .utf8mb4, 246⟩, ⟨"gb18030_chinese_ci", .gb18030, 248⟩,
   ⟨"gb18030_bin", .gb18030, 249⟩, ⟨"gb18030_unicode_520_ci", .gb18030, 250⟩,
   ⟨"utf8mb4_0900_ai_ci", .utf8mb4, 255⟩, ⟨"utf8mb4_0900_as_cs", .utf8mb4, 278⟩,
   ⟨"utf8mb4_0900_bin", .utf8mb4, 309⟩]

def isBinary (c : Collation) : Bool := c.name == binaryBytes.name

def isDefault (c : Collation) : Bool := c.charset.id == c.id

/-- The collation of a name, up to case and surrounding blanks. -/
def parse (s : String) : Except Error Collation :=
  let key := Text.trimmed s
  match catalog.find? fun c => Text.sameName c.name key with
  | some c => .ok c
  | none => .error (.unknownCollation key)

def ofId (n : Nat) : Except Error Collation :=
  match catalog.find? fun c => c.id == n with
  | some c => .ok c
  | none => .error (.unknownCollationId n)

end Collation

namespace Charset

/-- The collation that goes with the character set when none is given. -/
def defaultCollation (c : Charset) : Collation := ⟨c.defaultCollationName, c, c.id⟩

def collations (c : Charset) : List Collation :=
  Collation.catalog.filter fun collation => collation.charset == c

def supports (c : Charset) (collation : Collation) : Bool :=
  collation.isBinary || collation.charset.name == c.name

def ensureSupports (c : Charset) (collation : Collation) : Except Error Unit :=
  if c.supports collation then .ok () else .error (.foreignCollation collation.name c.name)

end Charset

end SqlDialect
