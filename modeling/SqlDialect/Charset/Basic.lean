import SqlDialect.Error

/-!
# Character sets

The character sets of the MySQL lineage. The number of a character set is that
of its default collation. `utf8mb3` is another name of `utf8`.
-/

namespace SqlDialect

inductive Charset where
  | armscii8 | ascii | big5 | binary | cp1250 | cp1251 | cp1256 | cp1257 | cp850 | cp852 | cp866
  | cp932 | dec8 | eucjpms | euckr | gb18030 | gb2312 | gbk | geostd8 | greek | hebrew | hp8
  | keybcs2 | koi8r | koi8u | latin1 | latin2 | latin5 | latin7 | macce | macroman | sjis | swe7
  | tis620 | ucs2 | ujis | utf16 | utf16le | utf32 | utf8 | utf8mb4
deriving Repr, DecidableEq

namespace Charset

def all : List Charset :=
  [.armscii8, .ascii, .big5, .binary, .cp1250, .cp1251, .cp1256, .cp1257, .cp850, .cp852,
   .cp866, .cp932, .dec8, .eucjpms, .euckr, .gb18030, .gb2312, .gbk, .geostd8, .greek, .hebrew,
   .hp8, .keybcs2, .koi8r, .koi8u, .latin1, .latin2, .latin5, .latin7, .macce, .macroman, .sjis,
   .swe7, .tis620, .ucs2, .ujis, .utf16, .utf16le, .utf32, .utf8, .utf8mb4]

def name : Charset → String
  | .armscii8 => "armscii8"
  | .ascii => "ascii"
  | .big5 => "big5"
  | .binary => "binary"
  | .cp1250 => "cp1250"
  | .cp1251 => "cp1251"
  | .cp1256 => "cp1256"
  | .cp1257 => "cp1257"
  | .cp850 => "cp850"
  | .cp852 => "cp852"
  | .cp866 => "cp866"
  | .cp932 => "cp932"
  | .dec8 => "dec8"
  | .eucjpms => "eucjpms"
  | .euckr => "euckr"
  | .gb18030 => "gb18030"
  | .gb2312 => "gb2312"
  | .gbk => "gbk"
  | .geostd8 => "geostd8"
  | .greek => "greek"
  | .hebrew => "hebrew"
  | .hp8 => "hp8"
  | .keybcs2 => "keybcs2"
  | .koi8r => "koi8r"
  | .koi8u => "koi8u"
  | .latin1 => "latin1"
  | .latin2 => "latin2"
  | .latin5 => "latin5"
  | .latin7 => "latin7"
  | .macce => "macce"
  | .macroman => "macroman"
  | .sjis => "sjis"
  | .swe7 => "swe7"
  | .tis620 => "tis620"
  | .ucs2 => "ucs2"
  | .ujis => "ujis"
  | .utf16 => "utf16"
  | .utf16le => "utf16le"
  | .utf32 => "utf32"
  | .utf8 => "utf8"
  | .utf8mb4 => "utf8mb4"

def id : Charset → Nat
  | .armscii8 => 32
  | .ascii => 11
  | .big5 => 1
  | .binary => 63
  | .cp1250 => 26
  | .cp1251 => 51
  | .cp1256 => 57
  | .cp1257 => 59
  | .cp850 => 4
  | .cp852 => 40
  | .cp866 => 36
  | .cp932 => 95
  | .dec8 => 3
  | .eucjpms => 97
  | .euckr => 19
  | .gb18030 => 248
  | .gb2312 => 24
  | .gbk => 28
  | .geostd8 => 92
  | .greek => 25
  | .hebrew => 16
  | .hp8 => 6
  | .keybcs2 => 37
  | .koi8r => 7
  | .koi8u => 22
  | .latin1 => 8
  | .latin2 => 9
  | .latin5 => 30
  | .latin7 => 41
  | .macce => 38
  | .macroman => 39
  | .sjis => 13
  | .swe7 => 10
  | .tis620 => 18
  | .ucs2 => 35
  | .ujis => 12
  | .utf16 => 54
  | .utf16le => 56
  | .utf32 => 60
  | .utf8 => 33
  | .utf8mb4 => 45

def defaultCollationName : Charset → String
  | .armscii8 => "armscii8_general_ci"
  | .ascii => "ascii_general_ci"
  | .big5 => "big5_chinese_ci"
  | .binary => "binary"
  | .cp1250 => "cp1250_general_ci"
  | .cp1251 => "cp1251_general_ci"
  | .cp1256 => "cp1256_general_ci"
  | .cp1257 => "cp1257_general_ci"
  | .cp850 => "cp850_general_ci"
  | .cp852 => "cp852_general_ci"
  | .cp866 => "cp866_general_ci"
  | .cp932 => "cp932_japanese_ci"
  | .dec8 => "dec8_swedish_ci"
  | .eucjpms => "eucjpms_japanese_ci"
  | .euckr => "euckr_korean_ci"
  | .gb18030 => "gb18030_chinese_ci"
  | .gb2312 => "gb2312_chinese_ci"
  | .gbk => "gbk_chinese_ci"
  | .geostd8 => "geostd8_general_ci"
  | .greek => "greek_general_ci"
  | .hebrew => "hebrew_general_ci"
  | .hp8 => "hp8_english_ci"
  | .keybcs2 => "keybcs2_general_ci"
  | .koi8r => "koi8r_general_ci"
  | .koi8u => "koi8u_general_ci"
  | .latin1 => "latin1_swedish_ci"
  | .latin2 => "latin2_general_ci"
  | .latin5 => "latin5_turkish_ci"
  | .latin7 => "latin7_general_ci"
  | .macce => "macce_general_ci"
  | .macroman => "macroman_general_ci"
  | .sjis => "sjis_japanese_ci"
  | .swe7 => "swe7_swedish_ci"
  | .tis620 => "tis620_thai_ci"
  | .ucs2 => "ucs2_general_ci"
  | .ujis => "ujis_japanese_ci"
  | .utf16 => "utf16_general_ci"
  | .utf16le => "utf16le_general_ci"
  | .utf32 => "utf32_general_ci"
  | .utf8 => "utf8_general_ci"
  | .utf8mb4 => "utf8mb4_general_ci"

/-- The character set of a name, up to case and surrounding blanks. -/
def parse (s : String) : Except Error Charset :=
  let key := Text.trimmed s
  if Text.sameName key "utf8mb3" then .ok .utf8
  else match all.find? fun c => Text.sameName c.name key with
    | some c => .ok c
    | none => .error (.unknownCharset key)

def ofId (n : Nat) : Except Error Charset :=
  match all.find? fun c => c.id == n with
  | some c => .ok c
  | none => .error (.unknownCharsetId n)

def isKnown (s : String) : Bool := (parse s).isOk

end Charset

end SqlDialect
