import CsdlRoutes.Text.Charset.ByteTable
import CsdlRoutes.Text.Charset.Escape
import CsdlRoutes.Text.Charset.Shifting
import CsdlRoutes.Text.Charset.Unicode

/-!
# Names of charsets

A charset has a name of its own and may have other names. Names are compared by their letters, digits
and dots, whatever stands between them. A dot may stand for what is between in the other names of a
charset, but not in the name of its own.

* `ofName?` is the charset of a name.
-/

namespace CsdlRoutes.Text.Charset

/-- A charset with the name of its own and its other names. -/
structure NamedCharset where
  name : String
  otherNames : List String
  charset : Charset

/-- The form in which names are compared: what is no letter, digit or dot separates, and each row of
such characters is one low line. -/
def comparedName (s : String) : String :=
  "_".intercalate (words [] (s.toList.map Char.toLower) |>.filter (!·.isEmpty))
where
  /-- The words of a name, given the characters of the first one that were read, last first. -/
  words (read : List Char) : List Char → List String
    | [] => [String.ofList read.reverse]
    | c :: rest =>
      if c.isAlphanum || c == '.' then words (c :: read) rest
      else String.ofList read.reverse :: words [] rest

/-- The charsets of two bytes or more a character. -/
def wideCharsets : List NamedCharset :=
  [⟨"shift_jis", ["csshiftjis", "s_jis", "shiftjis", "sjis", "x_mac_japanese"], shiftJis.charset⟩,
   ⟨"shift_jis_2004", ["s_jis_2004", "shiftjis2004", "sjis_2004"], shiftJis.charset⟩,
   ⟨"shift_jisx0213", ["s_jisx0213", "shiftjisx0213", "sjisx0213"], shiftJis.charset⟩,
   ⟨"cp932", ["932", "ms932", "ms_kanji", "mskanji"], vendorShiftJis.charset⟩,
   ⟨"euc_jp", ["eucjp", "u_jis", "ujis"], eucJp⟩,
   ⟨"euc_jis_2004", ["euc_jis2004", "eucjis2004", "jisx0213"], eucJp⟩,
   ⟨"euc_jisx0213", ["eucjisx0213"], eucJp⟩,
   ⟨"gb2312",
     ["chinese", "csiso58gb231280", "euc_cn", "euccn", "eucgb2312_cn", "gb2312_1980", "gb2312_80",
      "iso_ir_58", "x_mac_simp_chinese"],
     gb2312.charset⟩,
   ⟨"gbk", ["936", "cp936", "ms936"], gbk.charset⟩,
   ⟨"gb18030", ["gb18030_2000"], gb18030⟩,
   ⟨"big5", ["big5_tw", "csbig5", "x_mac_trad_chinese"], big5.charset⟩,
   ⟨"big5hkscs", ["big5_hkscs", "hkscs"], big5.charset⟩,
   ⟨"cp950", ["950", "ms950"], vendorBig5.charset⟩,
   ⟨"euc_kr",
     ["euckr", "korean", "ks_c_5601", "ks_c_5601_1987", "ks_x_1001", "ksc5601", "ksx1001",
      "x_mac_korean"],
     eucKr⟩,
   ⟨"cp949", ["949", "ms949", "uhc"], unifiedHangul.charset⟩]

/-- The charts of the oldest of the charsets that shift between Japanese charts. -/
def japaneseCharts : List Designation := [.roman, .kanji]

/-- The charsets that shift between charts. -/
def shiftingCharsets : List NamedCharset :=
  [⟨"hz", ["hz_gb", "hz_gb_2312", "hzgb"], hz⟩,
   ⟨"iso2022_jp", ["csiso2022jp", "iso2022jp", "iso_2022_jp"], shifting japaneseCharts false⟩,
   ⟨"iso2022_jp_1", ["iso2022jp_1", "iso_2022_jp_1"],
     shifting (.supplement :: japaneseCharts) false⟩,
   ⟨"iso2022_jp_2", ["iso2022jp_2", "iso_2022_jp_2"],
     shifting (.hanzi :: .wansung :: .supplement :: japaneseCharts) false⟩,
   ⟨"iso2022_jp_3", ["iso2022jp_3", "iso_2022_jp_3"], shifting japaneseCharts false⟩,
   ⟨"iso2022_jp_2004", ["iso2022jp_2004", "iso_2022_jp_2004"], shifting japaneseCharts false⟩,
   ⟨"iso2022_jp_ext", ["iso2022jp_ext", "iso_2022_jp_ext"],
     shifting (.halfWidth :: .supplement :: japaneseCharts) false⟩,
   ⟨"iso2022_kr", ["csiso2022kr", "iso2022kr", "iso_2022_kr"], shifting [.wansung] true⟩]

/-- The charsets of all characters. -/
def unicodeCharsets : List NamedCharset :=
  [⟨"utf_8", ["cp65001", "u8", "utf", "utf8", "utf8_ucs2", "utf8_ucs4"], utf8⟩,
   ⟨"utf_8_sig", [], markedUtf8⟩,
   ⟨"utf_16", ["u16", "utf16"], orderedUtf16⟩,
   ⟨"utf_16_le", ["unicodelittleunmarked", "utf_16le"], utf16 .littleEnd⟩,
   ⟨"utf_16_be", ["unicodebigunmarked", "utf_16be"], utf16 .bigEnd⟩,
   ⟨"utf_32", ["u32", "utf32"], orderedUtf32⟩,
   ⟨"utf_32_le", ["utf_32le"], utf32 .littleEnd⟩,
   ⟨"utf_32_be", ["utf_32be"], utf32 .bigEnd⟩,
   ⟨"utf_7", ["u7", "unicode_1_1_utf_7", "utf7"], utf7⟩,
   ⟨"unicode_escape", [], escapes⟩,
   ⟨"raw_unicode_escape", [], numberEscapes⟩]

/-- What goes by the name of a charset and reads nothing. -/
def failingCharsets : List NamedCharset :=
  [⟨"base64_codec", ["base64", "base_64"], .failing .bytesForBytes⟩,
   ⟨"bz2_codec", ["bz2"], .failing .bytesForBytes⟩,
   ⟨"hex_codec", ["hex"], .failing .bytesForBytes⟩,
   ⟨"quopri_codec", ["quopri", "quoted_printable", "quotedprintable"], .failing .bytesForBytes⟩,
   ⟨"uu_codec", ["uu"], .failing .bytesForBytes⟩,
   ⟨"zlib_codec", ["zip", "zlib"], .failing .bytesForBytes⟩,
   ⟨"rot_13", ["rot13"], .failing .textForText⟩,
   ⟨"idna", [], .failing .nothingWritten⟩,
   ⟨"undefined", [], .failing .nothingWritten⟩]

/-- All charsets. -/
def namedCharsets : List NamedCharset :=
  unicodeCharsets ++ byteTables.map (fun t => ⟨t.name, t.otherNames, t.charset⟩) ++ wideCharsets ++
    shiftingCharsets ++ failingCharsets

/-- The charset of a name. -/
def ofName? (name : String) : Option Charset :=
  let key := comparedName name
  let undotted := String.ofList (key.toList.map fun c => if c == '.' then '_' else c)
  let withOther (n : String) : Option NamedCharset := namedCharsets.find? (·.otherNames.contains n)
  let withOwn := if key.toList.contains '.' then none else namedCharsets.find? (·.name == key)
  (((withOther key).or (withOther undotted)).or withOwn).map (·.charset)

end CsdlRoutes.Text.Charset
