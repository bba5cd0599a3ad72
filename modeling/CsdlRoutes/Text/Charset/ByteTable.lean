import CsdlRoutes.Text.Charset.Piece

/-!
# Charsets of one byte a character

Most of these charsets agree with ASCII in the lower half of the bytes, so that only the upper half is
given, sixteen characters a row as code charts have it. Where a byte stands for nothing there is the
mark for that.

* `byteTables` are these charsets, each with the name of its own and its other names.
* `ByteTable.charOf` is the character that a byte stands for.
-/

namespace CsdlRoutes.Text.Charset

/-- The characters that bytes stand for. -/
inductive ByteChart where
  /-- Each byte stands for the character of its number. -/
  | identity
  /-- The characters from 128 on. Below, each byte stands for the character of its number. -/
  | high (rows : List String)
  /-- All characters. -/
  | whole (rows : List String)
  deriving DecidableEq, Repr

/-- A charset of one byte a character. -/
structure ByteTable where
  name : String
  otherNames : List String
  chart : ByteChart
  deriving DecidableEq, Repr

/-- The character that a byte stands for, or the mark for nothing. -/
def ByteChart.charOf (chart : ByteChart) (b : UInt8) : Char :=
  match chart with
  | .identity => Char.ofNat b.toNat
  | .high rows =>
    if b < 128 then Char.ofNat b.toNat
    else (tableChar? 16 rows (b.toNat - 128)).getD replacementMark
  | .whole rows => (tableChar? 16 rows b.toNat).getD replacementMark

/-- What a charset of one byte a character makes of a row of bytes. -/
def ByteTable.charset (t : ByteTable) : Charset := fun bytes => .ok (bytes.map t.chart.charOf)

/-- The charsets of one byte a character. -/
def byteTables : List ByteTable :=
  [⟨"ascii",
     ["646", "ansi_x3.4_1968", "ansi_x3.4_1986", "ansi_x3_4_1968", "cp367", "csascii",
      "ibm367", "iso646_us", "iso_646.irv_1991", "iso_ir_6", "us", "us_ascii"],
     .high []⟩,
   ⟨"charmap", [], .identity⟩,
   ⟨"cp037",
     ["037", "csibm037", "ebcdic_cp_ca", "ebcdic_cp_nl", "ebcdic_cp_us", "ebcdic_cp_wt",
      "ibm037", "ibm039"],
     .whole
      ["\x00\x01\x02\x03\x9c\x09\x86\x7f\x97\x8d\x8e\x0b\x0c\x0d\x0e\x0f",
       "\x10\x11\x12\x13\x9d\x85\x08\x87\x18\x19\x92\x8f\x1c\x1d\x1e\x1f",
       "\x80\x81\x82\x83\x84\x0a\x17\x1b\x88\x89\x8a\x8b\x8c\x05\x06\x07",
       "\x90\x91\x16\x93\x94\x95\x96\x04\x98\x99\x9a\x9b\x14\x15\x9e\x1a",
       " \xa0âäàáãåçñ¢.<(+|",
       "&éêëèíîïìß!$*);¬",
       "-/ÂÄÀÁÃÅÇÑ¦,%_>?",
       "øÉÊËÈÍÎÏÌ\x60:#@'=\"",
       "Øabcdefghi«»ðýþ±",
       "°jklmnopqrªºæ¸Æ¤",
       "µ~stuvwxyz¡¿ÐÝÞ®",
       "^£¥·©§¶¼½¾[]¯¨´×",
       "\x7bABCDEFGHI\xadôöòóõ",
       "\x7dJKLMNOPQR¹ûüùúÿ",
       "\\÷STUVWXYZ²ÔÖÒÓÕ",
       "0123456789³ÛÜÙÚ\x9f"]⟩,
   ⟨"cp1006", [], .high
      ["\x80\x81\x82\x83\x84\x85\x86\x87\x88\x89\x8a\x8b\x8c\x8d\x8e\x8f",
       "\x90\x91\x92\x93\x94\x95\x96\x97\x98\x99\x9a\x9b\x9c\x9d\x9e\x9f",
       "\xa0۰۱۲۳۴۵۶۷۸۹،\u061b\xad\u061f\ufe81",
       "\ufe8d\ufe8e\ufe8e\ufe8f\ufe91\ufb56\ufb58\ufe93\ufe95\ufe97\ufb66\ufb68\ufe99\ufe9b\ufe9d\ufe9f",
       "\ufb7a\ufb7c\ufea1\ufea3\ufea5\ufea7\ufea9\ufb84\ufeab\ufead\ufb8c\ufeaf\ufb8a\ufeb1\ufeb3\ufeb5",
       "\ufeb7\ufeb9\ufebb\ufebd\ufebf\ufec1\ufec5\ufec9\ufeca\ufecb\ufecc\ufecd\ufece\ufecf\ufed0\ufed1",
       "\ufed3\ufed5\ufed7\ufed9\ufedb\ufb92\ufb94\ufedd\ufedf\ufee0\ufee1\ufee3\ufb9e\ufee5\ufee7\ufe85",
       "\ufeed\ufba6\ufba8\ufba9\ufbaa\ufe80\ufe89\ufe8a\ufe8b\ufef1\ufef2\ufef3\ufbb0\ufbae\ufe7c\ufe7d"]⟩,
   ⟨"cp1026", ["1026", "csibm1026", "ibm1026"], .whole
      ["\x00\x01\x02\x03\x9c\x09\x86\x7f\x97\x8d\x8e\x0b\x0c\x0d\x0e\x0f",
       "\x10\x11\x12\x13\x9d\x85\x08\x87\x18\x19\x92\x8f\x1c\x1d\x1e\x1f",
       "\x80\x81\x82\x83\x84\x0a\x17\x1b\x88\x89\x8a\x8b\x8c\x05\x06\x07",
       "\x90\x91\x16\x93\x94\x95\x96\x04\x98\x99\x9a\x9b\x14\x15\x9e\x1a",
       " \xa0âäàáãå\x7bñÇ.<(+!",
       "&éêëèíîïìßĞİ*);^",
       "-/ÂÄÀÁÃÅ[Ñş,%_>?",
       "øÉÊËÈÍÎÏÌı:ÖŞ'=Ü",
       "Øabcdefghi«»\x7d\x60¦±",
       "°jklmnopqrªºæ¸Æ¤",
       "µöstuvwxyz¡¿]$@®",
       "¢£¥·©§¶¼½¾¬|¯¨´×",
       "çABCDEFGHI\xadô~òóõ",
       "ğJKLMNOPQR¹û\\ùúÿ",
       "ü÷STUVWXYZ²Ô#ÒÓÕ",
       "0123456789³Û\"ÙÚ\x9f"]⟩,
   ⟨"cp1125", ["1125", "cp866u", "ibm1125", "ruscii"], .high
      ["АБВГДЕЖЗИЙКЛМНОП",
       "РСТУФХЦЧШЩЪЫЬЭЮЯ",
       "абвгдежзийклмноп",
       "░▒▓│┤╡╢╖╕╣║╗╝╜╛┐",
       "└┴┬├─┼╞╟╚╔╩╦╠═╬╧",
       "╨╤╥╙╘╒╓╫╪┘┌█▄▌▐▀",
       "рстуфхцчшщъыьэюя",
       "ЁёҐґЄєІіЇї·√№¤■\xa0"]⟩,
   ⟨"cp1140", ["1140", "ibm1140"], .whole
      ["\x00\x01\x02\x03\x9c\x09\x86\x7f\x97\x8d\x8e\x0b\x0c\x0d\x0e\x0f",
       "\x10\x11\x12\x13\x9d\x85\x08\x87\x18\x19\x92\x8f\x1c\x1d\x1e\x1f",
       "\x80\x81\x82\x83\x84\x0a\x17\x1b\x88\x89\x8a\x8b\x8c\x05\x06\x07",
       "\x90\x91\x16\x93\x94\x95\x96\x04\x98\x99\x9a\x9b\x14\x15\x9e\x1a",
       " \xa0âäàáãåçñ¢.<(+|",
       "&éêëèíîïìß!$*);¬",
       "-/ÂÄÀÁÃÅÇÑ¦,%_>?",
       "øÉÊËÈÍÎÏÌ\x60:#@'=\"",
       "Øabcdefghi«»ðýþ±",
       "°jklmnopqrªºæ¸Æ€",
       "µ~stuvwxyz¡¿ÐÝÞ®",
       "^£¥·©§¶¼½¾[]¯¨´×",
       "\x7bABCDEFGHI\xadôöòóõ",
       "\x7dJKLMNOPQR¹ûüùúÿ",
       "\\÷STUVWXYZ²ÔÖÒÓÕ",
       "0123456789³ÛÜÙÚ\x9f"]⟩,
   ⟨"cp1250", ["1250", "windows_1250"], .high
      ["€�‚�„…†‡�‰Š‹ŚŤŽŹ",
       "�‘’“”•–—�™š›śťžź",
       "\xa0ˇ˘Ł¤Ą¦§¨©Ş«¬\xad®Ż",
       "°±˛ł´µ¶·¸ąş»Ľ˝ľż",
       "ŔÁÂĂÄĹĆÇČÉĘËĚÍÎĎ",
       "ĐŃŇÓÔŐÖ×ŘŮÚŰÜÝŢß",
       "ŕáâăäĺćçčéęëěíîď",
       "đńňóôőö÷řůúűüýţ˙"]⟩,
   ⟨"cp1251", ["1251", "windows_1251"], .high
      ["ЂЃ‚ѓ„…†‡€‰Љ‹ЊЌЋЏ",
       "ђ‘’“”•–—�™љ›њќћџ",
       "\xa0ЎўЈ¤Ґ¦§Ё©Є«¬\xad®Ї",
       "°±Ііґµ¶·ё№є»јЅѕї",
       "АБВГДЕЖЗИЙКЛМНОП",
       "РСТУФХЦЧШЩЪЫЬЭЮЯ",
       "абвгдежзийклмноп",
       "рстуфхцчшщъыьэюя"]⟩,
   ⟨"cp1252", ["1252", "windows_1252"], .high
      ["€�‚ƒ„…†‡ˆ‰Š‹Œ�Ž",
       "�‘’“”•–—˜™š›œ�žŸ",
       "\xa0¡¢£¤¥¦§¨©ª«¬\xad®¯",
       "°±²³´µ¶·¸¹º»¼½¾¿",
       "ÀÁÂÃÄÅÆÇÈÉÊËÌÍÎÏ",
       "ÐÑÒÓÔÕÖ×ØÙÚÛÜÝÞß",
       "àáâãäåæçèéêëìíîï",
       "ðñòóôõö÷øùúûüýþÿ"]⟩,
   ⟨"cp1253", ["1253", "windows_1253"], .high
      ["€�‚ƒ„…†‡�‰�‹",
       "�‘’“”•–—�™�›",
       "\xa0΅Ά£¤¥¦§¨©�«¬\xad®―",
       "°±²³΄µ¶·ΈΉΊ»Ό½ΎΏ",
       "ΐΑΒΓΔΕΖΗΘΙΚΛΜΝΞΟ",
       "ΠΡ�ΣΤΥΦΧΨΩΪΫάέήί",
       "ΰαβγδεζηθικλμνξο",
       "πρςστυφχψωϊϋόύώ"]⟩,
   ⟨"cp1254", ["1254", "windows_1254"], .high
      ["€�‚ƒ„…†‡ˆ‰Š‹Œ",
       "�‘’“”•–—˜™š›œ��Ÿ",
       "\xa0¡¢£¤¥¦§¨©ª«¬\xad®¯",
       "°±²³´µ¶·¸¹º»¼½¾¿",
       "ÀÁÂÃÄÅÆÇÈÉÊËÌÍÎÏ",
       "ĞÑÒÓÔÕÖ×ØÙÚÛÜİŞß",
       "àáâãäåæçèéêëìíîï",
       "ğñòóôõö÷øùúûüışÿ"]⟩,
   ⟨"cp1255", ["1255", "windows_1255"], .high
      ["€�‚ƒ„…†‡ˆ‰�‹",
       "�‘’“”•–—˜™�›",
       "\xa0¡¢£₪¥¦§¨©×«¬\xad®¯",
       "°±²³´µ¶·¸¹÷»¼½¾¿",
       "\u05b0\u05b1\u05b2\u05b3\u05b4\u05b5\u05b6\u05b7\u05b8\u05b9�\u05bb\u05bc\u05bd\u05be\u05bf",
       "\u05c0\u05c1\u05c2\u05c3\u05f0\u05f1\u05f2\u05f3\u05f4",
       "\u05d0\u05d1\u05d2\u05d3\u05d4\u05d5\u05d6\u05d7\u05d8\u05d9\u05da\u05db\u05dc\u05dd\u05de\u05df",
       "\u05e0\u05e1\u05e2\u05e3\u05e4\u05e5\u05e6\u05e7\u05e8\u05e9\u05ea��\u200e\u200f"]⟩,
   ⟨"cp1256", ["1256", "windows_1256"], .high
      ["€\u067e‚ƒ„…†‡ˆ‰\u0679‹Œ\u0686\u0698\u0688",
       "\u06af‘’“”•–—\u06a9™\u0691›œ\u200c\u200d\u06ba",
       "\xa0،¢£¤¥¦§¨©\u06be«¬\xad®¯",
       "°±²³´µ¶·¸¹\u061b»¼½¾\u061f",
       "\u06c1\u0621\u0622\u0623\u0624\u0625\u0626\u0627\u0628\u0629\u062a\u062b\u062c\u062d\u062e\u062f",
       "\u0630\u0631\u0632\u0633\u0634\u0635\u0636×\u0637\u0638\u0639\u063a\u0640\u0641\u0642\u0643",
       "à\u0644â\u0645\u0646\u0647\u0648çèéêë\u0649\u064aîï",
       "\u064b\u064c\u064d\u064eô\u064f\u0650÷\u0651ù\u0652ûü\u200e\u200f\u06d2"]⟩,
   ⟨"cp1257", ["1257", "windows_1257"], .high
      ["€�‚�„…†‡�‰�‹�¨ˇ¸",
       "�‘’“”•–—�™�›�¯˛",
       "\xa0�¢£¤�¦§Ø©Ŗ«¬\xad®Æ",
       "°±²³´µ¶·ø¹ŗ»¼½¾æ",
       "ĄĮĀĆÄÅĘĒČÉŹĖĢĶĪĻ",
       "ŠŃŅÓŌÕÖ×ŲŁŚŪÜŻŽß",
       "ąįāćäåęēčéźėģķīļ",
       "šńņóōõö÷ųłśūüżž˙"]⟩,
   ⟨"cp1258", ["1258", "windows_1258"], .high
      ["€�‚ƒ„…†‡ˆ‰�‹Œ",
       "�‘’“”•–—˜™�›œ��Ÿ",
       "\xa0¡¢£¤¥¦§¨©ª«¬\xad®¯",
       "°±²³´µ¶·¸¹º»¼½¾¿",
       "ÀÁÂĂÄÅÆÇÈÉÊË\u0300ÍÎÏ",
       "ĐÑ\u0309ÓÔƠÖ×ØÙÚÛÜƯ\u0303ß",
       "àáâăäåæçèéêë\u0301íîï",
       "đñ\u0323óôơö÷øùúûüư₫ÿ"]⟩,
   ⟨"cp273", ["273", "csibm273", "ibm273"], .whole
      ["\x00\x01\x02\x03\x9c\x09\x86\x7f\x97\x8d\x8e\x0b\x0c\x0d\x0e\x0f",
       "\x10\x11\x12\x13\x9d\x85\x08\x87\x18\x19\x92\x8f\x1c\x1d\x1e\x1f",
       "\x80\x81\x82\x83\x84\x0a\x17\x1b\x88\x89\x8a\x8b\x8c\x05\x06\x07",
       "\x90\x91\x16\x93\x94\x95\x96\x04\x98\x99\x9a\x9b\x14\x15\x9e\x1a",
       " \xa0â\x7bàáãåçñÄ.<(+!",
       "&éêëèíîïì~Ü$*);^",
       "-/Â[ÀÁÃÅÇÑö,%_>?",
       "øÉÊËÈÍÎÏÌ\x60:#§'=\"",
       "Øabcdefghi«»ðýþ±",
       "°jklmnopqrªºæ¸Æ¤",
       "µßstuvwxyz¡¿ÐÝÞ®",
       "¢£¥·©@¶¼½¾¬|‾¨´×",
       "äABCDEFGHI\xadô¦òóõ",
       "üJKLMNOPQR¹û\x7dùúÿ",
       "Ö÷STUVWXYZ²Ô\\ÒÓÕ",
       "0123456789³Û]ÙÚ\x9f"]⟩,
   ⟨"cp424", ["424", "csibm424", "ebcdic_cp_he", "ibm424"], .whole
      ["\x00\x01\x02\x03\x9c\x09\x86\x7f\x97\x8d\x8e\x0b\x0c\x0d\x0e\x0f",
       "\x10\x11\x12\x13\x9d\x85\x08\x87\x18\x19\x92\x8f\x1c\x1d\x1e\x1f",
       "\x80\x81\x82\x83\x84\x0a\x17\x1b\x88\x89\x8a\x8b\x8c\x05\x06\x07",
       "\x90\x91\x16\x93\x94\x95\x96\x04\x98\x99\x9a\x9b\x14\x15\x9e\x1a",
       " \u05d0\u05d1\u05d2\u05d3\u05d4\u05d5\u05d6\u05d7\u05d8¢.<(+|",
       "&\u05d9\u05da\u05db\u05dc\u05dd\u05de\u05df\u05e0\u05e1!$*);¬",
       "-/\u05e2\u05e3\u05e4\u05e5\u05e6\u05e7\u05e8\u05e9¦,%_>?",
       "�\u05ea��\xa0���‗\x60:#@'=\"",
       "�abcdefghi«»���±",
       "°jklmnopqr���¸�¤",
       "µ~stuvwxyz�����®",
       "^£¥·©§¶¼½¾[]¯¨´×",
       "\x7bABCDEFGHI\xad",
       "\x7dJKLMNOPQR¹",
       "\\÷STUVWXYZ²",
       "0123456789³����\x9f"]⟩,
   ⟨"cp437", ["437", "cspc8codepage437", "ibm437"], .high
      ["ÇüéâäàåçêëèïîìÄÅ",
       "ÉæÆôöòûùÿÖÜ¢£¥₧ƒ",
       "áíóúñÑªº¿⌐¬½¼¡«»",
       "░▒▓│┤╡╢╖╕╣║╗╝╜╛┐",
       "└┴┬├─┼╞╟╚╔╩╦╠═╬╧",
       "╨╤╥╙╘╒╓╫╪┘┌█▄▌▐▀",
       "αßΓπΣσµτΦΘΩδ∞φε∩",
       "≡±≥≤⌠⌡÷≈°∙·√ⁿ²■\xa0"]⟩,
   ⟨"cp500", ["500", "csibm500", "ebcdic_cp_be", "ebcdic_cp_ch", "ibm500"], .whole
      ["\x00\x01\x02\x03\x9c\x09\x86\x7f\x97\x8d\x8e\x0b\x0c\x0d\x0e\x0f",
       "\x10\x11\x12\x13\x9d\x85\x08\x87\x18\x19\x92\x8f\x1c\x1d\x1e\x1f",
       "\x80\x81\x82\x83\x84\x0a\x17\x1b\x88\x89\x8a\x8b\x8c\x05\x06\x07",
       "\x90\x91\x16\x93\x94\x95\x96\x04\x98\x99\x9a\x9b\x14\x15\x9e\x1a",
       " \xa0âäàáãåçñ[.<(+!",
       "&éêëèíîïìß]$*);^",
       "-/ÂÄÀÁÃÅÇÑ¦,%_>?",
       "øÉÊËÈÍÎÏÌ\x60:#@'=\"",
       "Øabcdefghi«»ðýþ±",
       "°jklmnopqrªºæ¸Æ¤",
       "µ~stuvwxyz¡¿ÐÝÞ®",
       "¢£¥·©§¶¼½¾¬|¯¨´×",
       "\x7bABCDEFGHI\xadôöòóõ",
       "\x7dJKLMNOPQR¹ûüùúÿ",
       "\\÷STUVWXYZ²ÔÖÒÓÕ",
       "0123456789³ÛÜÙÚ\x9f"]⟩,
   ⟨"cp720", [], .high
      ["\x80\x81éâ\x84à\x86çêëèïî\x8d\x8e\x8f",
       "\x90\u0651\u0652ô¤\u0640ûù\u0621\u0622\u0623\u0624£\u0625\u0626\u0627",
       "\u0628\u0629\u062a\u062b\u062c\u062d\u062e\u062f\u0630\u0631\u0632\u0633\u0634\u0635«»",
       "░▒▓│┤╡╢╖╕╣║╗╝╜╛┐",
       "└┴┬├─┼╞╟╚╔╩╦╠═╬╧",
       "╨╤╥╙╘╒╓╫╪┘┌█▄▌▐▀",
       "\u0636\u0637\u0638\u0639\u063a\u0641µ\u0642\u0643\u0644\u0645\u0646\u0647\u0648\u0649\u064a",
       "≡\u064b\u064c\u064d\u064e\u064f\u0650≈°∙·√ⁿ²■\xa0"]⟩,
   ⟨"cp737", [], .high
      ["ΑΒΓΔΕΖΗΘΙΚΛΜΝΞΟΠ",
       "ΡΣΤΥΦΧΨΩαβγδεζηθ",
       "ικλμνξοπρσςτυφχψ",
       "░▒▓│┤╡╢╖╕╣║╗╝╜╛┐",
       "└┴┬├─┼╞╟╚╔╩╦╠═╬╧",
       "╨╤╥╙╘╒╓╫╪┘┌█▄▌▐▀",
       "ωάέήϊίόύϋώΆΈΉΊΌΎ",
       "Ώ±≥≤ΪΫ÷≈°∙·√ⁿ²■\xa0"]⟩,
   ⟨"cp775", ["775", "cspc775baltic", "ibm775"], .high
      ["ĆüéāäģåćłēŖŗīŹÄÅ",
       "ÉæÆōöĢ¢ŚśÖÜø£Ø×¤",
       "ĀĪóŻżź”¦©®¬½¼Ł«»",
       "░▒▓│┤ĄČĘĖ╣║╗╝ĮŠ┐",
       "└┴┬├─┼ŲŪ╚╔╩╦╠═╬Ž",
       "ąčęėįšųūž┘┌█▄▌▐▀",
       "ÓßŌŃõÕµńĶķĻļņĒŅ’",
       "\xad±“¾¶§÷„°∙·¹³²■\xa0"]⟩,
   ⟨"cp850", ["850", "cspc850multilingual", "ibm850"], .high
      ["ÇüéâäàåçêëèïîìÄÅ",
       "ÉæÆôöòûùÿÖÜø£Ø×ƒ",
       "áíóúñÑªº¿®¬½¼¡«»",
       "░▒▓│┤ÁÂÀ©╣║╗╝¢¥┐",
       "└┴┬├─┼ãÃ╚╔╩╦╠═╬¤",
       "ðÐÊËÈıÍÎÏ┘┌█▄¦Ì▀",
       "ÓßÔÒõÕµþÞÚÛÙýÝ¯´",
       "\xad±‗¾¶§÷¸°¨·¹³²■\xa0"]⟩,
   ⟨"cp852", ["852", "cspcp852", "ibm852"], .high
      ["ÇüéâäůćçłëŐőîŹÄĆ",
       "ÉĹĺôöĽľŚśÖÜŤťŁ×č",
       "áíóúĄąŽžĘę¬źČş«»",
       "░▒▓│┤ÁÂĚŞ╣║╗╝Żż┐",
       "└┴┬├─┼Ăă╚╔╩╦╠═╬¤",
       "đĐĎËďŇÍÎě┘┌█▄ŢŮ▀",
       "ÓßÔŃńňŠšŔÚŕŰýÝţ´",
       "\xad˝˛ˇ˘§÷¸°¨˙űŘř■\xa0"]⟩,
   ⟨"cp855", ["855", "csibm855", "ibm855"], .high
      ["ђЂѓЃёЁєЄѕЅіІїЇјЈ",
       "љЉњЊћЋќЌўЎџЏюЮъЪ",
       "аАбБцЦдДеЕфФгГ«»",
       "░▒▓│┤хХиИ╣║╗╝йЙ┐",
       "└┴┬├─┼кК╚╔╩╦╠═╬¤",
       "лЛмМнНоОп┘┌█▄Пя▀",
       "ЯрРсСтТуУжЖвВьЬ№",
       "\xadыЫзЗшШэЭщЩчЧ§■\xa0"]⟩,
   ⟨"cp856", [], .high
      ["\u05d0\u05d1\u05d2\u05d3\u05d4\u05d5\u05d6\u05d7\u05d8\u05d9\u05da\u05db\u05dc\u05dd\u05de\u05df",
       "\u05e0\u05e1\u05e2\u05e3\u05e4\u05e5\u05e6\u05e7\u05e8\u05e9\u05ea�£�×",
       "���������®¬½¼�«»",
       "░▒▓│┤���©╣║╗╝¢¥┐",
       "└┴┬├─┼��╚╔╩╦╠═╬¤",
       "���������┘┌█▄¦�▀",
       "������µ�������¯´",
       "\xad±‗¾¶§÷¸°¨·¹³²■\xa0"]⟩,
   ⟨"cp857", ["857", "csibm857", "ibm857"], .high
      ["ÇüéâäàåçêëèïîıÄÅ",
       "ÉæÆôöòûùİÖÜø£ØŞş",
       "áíóúñÑĞğ¿®¬½¼¡«»",
       "░▒▓│┤ÁÂÀ©╣║╗╝¢¥┐",
       "└┴┬├─┼ãÃ╚╔╩╦╠═╬¤",
       "ºªÊËÈ�ÍÎÏ┘┌█▄¦Ì▀",
       "ÓßÔÒõÕµ�×ÚÛÙìÿ¯´",
       "\xad±�¾¶§÷¸°¨·¹³²■\xa0"]⟩,
   ⟨"cp858", ["858", "csibm858", "ibm858"], .high
      ["ÇüéâäàåçêëèïîìÄÅ",
       "ÉæÆôöòûùÿÖÜø£Ø×ƒ",
       "áíóúñÑªº¿®¬½¼¡«»",
       "░▒▓│┤ÁÂÀ©╣║╗╝¢¥┐",
       "└┴┬├─┼ãÃ╚╔╩╦╠═╬¤",
       "ðÐÊËÈ€ÍÎÏ┘┌█▄¦Ì▀",
       "ÓßÔÒõÕµþÞÚÛÙýÝ¯´",
       "\xad±‗¾¶§÷¸°¨·¹³²■\xa0"]⟩,
   ⟨"cp860", ["860", "csibm860", "ibm860"], .high
      ["ÇüéâãàÁçêÊèÍÔìÃÂ",
       "ÉÀÈôõòÚùÌÕÜ¢£Ù₧Ó",
       "áíóúñÑªº¿Ò¬½¼¡«»",
       "░▒▓│┤╡╢╖╕╣║╗╝╜╛┐",
       "└┴┬├─┼╞╟╚╔╩╦╠═╬╧",
       "╨╤╥╙╘╒╓╫╪┘┌█▄▌▐▀",
       "αßΓπΣσµτΦΘΩδ∞φε∩",
       "≡±≥≤⌠⌡÷≈°∙·√ⁿ²■\xa0"]⟩,
   ⟨"cp861", ["861", "cp_is", "csibm861", "ibm861"], .high
      ["ÇüéâäàåçêëèÐðÞÄÅ",
       "ÉæÆôöþûÝýÖÜø£Ø₧ƒ",
       "áíóúÁÍÓÚ¿⌐¬½¼¡«»",
       "░▒▓│┤╡╢╖╕╣║╗╝╜╛┐",
       "└┴┬├─┼╞╟╚╔╩╦╠═╬╧",
       "╨╤╥╙╘╒╓╫╪┘┌█▄▌▐▀",
       "αßΓπΣσµτΦΘΩδ∞φε∩",
       "≡±≥≤⌠⌡÷≈°∙·√ⁿ²■\xa0"]⟩,
   ⟨"cp862", ["862", "cspc862latinhebrew", "ibm862"], .high
      ["\u05d0\u05d1\u05d2\u05d3\u05d4\u05d5\u05d6\u05d7\u05d8\u05d9\u05da\u05db\u05dc\u05dd\u05de\u05df",
       "\u05e0\u05e1\u05e2\u05e3\u05e4\u05e5\u05e6\u05e7\u05e8\u05e9\u05ea¢£¥₧ƒ",
       "áíóúñÑªº¿⌐¬½¼¡«»",
       "░▒▓│┤╡╢╖╕╣║╗╝╜╛┐",
       "└┴┬├─┼╞╟╚╔╩╦╠═╬╧",
       "╨╤╥╙╘╒╓╫╪┘┌█▄▌▐▀",
       "αßΓπΣσµτΦΘΩδ∞φε∩",
       "≡±≥≤⌠⌡÷≈°∙·√ⁿ²■\xa0"]⟩,
   ⟨"cp863", ["863", "csibm863", "ibm863"], .high
      ["ÇüéâÂà¶çêëèïî‗À§",
       "ÉÈÊôËÏûù¤ÔÜ¢£ÙÛƒ",
       "¦´óú¨¸³¯Î⌐¬½¼¾«»",
       "░▒▓│┤╡╢╖╕╣║╗╝╜╛┐",
       "└┴┬├─┼╞╟╚╔╩╦╠═╬╧",
       "╨╤╥╙╘╒╓╫╪┘┌█▄▌▐▀",
       "αßΓπΣσµτΦΘΩδ∞φε∩",
       "≡±≥≤⌠⌡÷≈°∙·√ⁿ²■\xa0"]⟩,
   ⟨"cp864", ["864", "csibm864", "ibm864"], .whole
      ["\x00\x01\x02\x03\x04\x05\x06\x07\x08\x09\x0a\x0b\x0c\x0d\x0e\x0f",
       "\x10\x11\x12\x13\x14\x15\x16\x17\x18\x19\x1a\x1b\x1c\x1d\x1e\x1f",
       " !\"#$٪&'()*+,-./",
       "0123456789:;<=>?",
       "@ABCDEFGHIJKLMNO",
       "PQRSTUVWXYZ[\\]^_",
       "\x60abcdefghijklmno",
       "pqrstuvwxyz\x7b|\x7d~\x7f",
       "°·∙√▒─│┼┤┬├┴┐┌└┘",
       "β∞φ±½¼≈«»\ufef7\ufef8��\ufefb\ufefc",
       "\xa0\xad\ufe82£¤\ufe84��\ufe8e\ufe8f\ufe95\ufe99،\ufe9d\ufea1\ufea5",
       "\u0660\u0661\u0662\u0663\u0664\u0665\u0666\u0667\u0668\u0669\ufed1\u061b\ufeb1\ufeb5\ufeb9\u061f",
       "¢\ufe80\ufe81\ufe83\ufe85\ufeca\ufe8b\ufe8d\ufe91\ufe93\ufe97\ufe9b\ufe9f\ufea3\ufea7\ufea9",
       "\ufeab\ufead\ufeaf\ufeb3\ufeb7\ufebb\ufebf\ufec1\ufec5\ufecb\ufecf¦¬÷×\ufec9",
       "\u0640\ufed3\ufed7\ufedb\ufedf\ufee3\ufee7\ufeeb\ufeed\ufeef\ufef3\ufebd\ufecc\ufece\ufecd\ufee1",
       "\ufe7d\u0651\ufee5\ufee9\ufeec\ufef0\ufef2\ufed0\ufed5\ufef5\ufef6\ufedd\ufed9\ufef1■"]⟩,
   ⟨"cp865", ["865", "csibm865", "ibm865"], .high
      ["ÇüéâäàåçêëèïîìÄÅ",
       "ÉæÆôöòûùÿÖÜø£Ø₧ƒ",
       "áíóúñÑªº¿⌐¬½¼¡«¤",
       "░▒▓│┤╡╢╖╕╣║╗╝╜╛┐",
       "└┴┬├─┼╞╟╚╔╩╦╠═╬╧",
       "╨╤╥╙╘╒╓╫╪┘┌█▄▌▐▀",
       "αßΓπΣσµτΦΘΩδ∞φε∩",
       "≡±≥≤⌠⌡÷≈°∙·√ⁿ²■\xa0"]⟩,
   ⟨"cp866", ["866", "csibm866", "ibm866"], .high
      ["АБВГДЕЖЗИЙКЛМНОП",
       "РСТУФХЦЧШЩЪЫЬЭЮЯ",
       "абвгдежзийклмноп",
       "░▒▓│┤╡╢╖╕╣║╗╝╜╛┐",
       "└┴┬├─┼╞╟╚╔╩╦╠═╬╧",
       "╨╤╥╙╘╒╓╫╪┘┌█▄▌▐▀",
       "рстуфхцчшщъыьэюя",
       "ЁёЄєЇїЎў°∙·√№¤■\xa0"]⟩,
   ⟨"cp869", ["869", "cp_gr", "csibm869", "ibm869"], .high
      ["������Ά�·¬¦‘’Έ―Ή",
       "ΊΪΌ��ΎΫ©Ώ²³ά£έήί",
       "ϊΐόύΑΒΓΔΕΖΗ½ΘΙ«»",
       "░▒▓│┤ΚΛΜΝ╣║╗╝ΞΟ┐",
       "└┴┬├─┼ΠΡ╚╔╩╦╠═╬Σ",
       "ΤΥΦΧΨΩαβγ┘┌█▄δε▀",
       "ζηθικλμνξοπρσςτ΄",
       "\xad±υφχ§ψ΅°¨ωϋΰώ■\xa0"]⟩,
   ⟨"cp874", [], .high
      ["€����…",
       "�‘’“”•–—",
       "\xa0กขฃคฅฆงจฉชซฌญฎฏ",
       "ฐฑฒณดตถทธนบปผฝพฟ",
       "ภมยรฤลฦวศษสหฬอฮฯ",
       "ะ\u0e31าำ\u0e34\u0e35\u0e36\u0e37\u0e38\u0e39\u0e3a����฿",
       "เแโใไๅๆ\u0e47\u0e48\u0e49\u0e4a\u0e4b\u0e4c\u0e4d\u0e4e๏",
       "๐๑๒๓๔๕๖๗๘๙๚๛"]⟩,
   ⟨"cp875", [], .whole
      ["\x00\x01\x02\x03\x9c\x09\x86\x7f\x97\x8d\x8e\x0b\x0c\x0d\x0e\x0f",
       "\x10\x11\x12\x13\x9d\x85\x08\x87\x18\x19\x92\x8f\x1c\x1d\x1e\x1f",
       "\x80\x81\x82\x83\x84\x0a\x17\x1b\x88\x89\x8a\x8b\x8c\x05\x06\x07",
       "\x90\x91\x16\x93\x94\x95\x96\x04\x98\x99\x9a\x9b\x14\x15\x9e\x1a",
       " ΑΒΓΔΕΖΗΘΙ[.<(+!",
       "&ΚΛΜΝΞΟΠΡΣ]$*);^",
       "-/ΤΥΦΧΨΩΪΫ|,%_>?",
       "¨ΆΈΉ\xa0ΊΌΎΏ\x60:#@'=\"",
       "΅abcdefghiαβγδεζ",
       "°jklmnopqrηθικλμ",
       "´~stuvwxyzνξοπρσ",
       "£άέήϊίόύϋώςτυφχψ",
       "\x7bABCDEFGHI\xadωΐΰ‘―",
       "\x7dJKLMNOPQR±½\x1a·’¦",
       "\\\x1aSTUVWXYZ²§\x1a\x1a«¬",
       "0123456789³©\x1a\x1a»\x9f"]⟩,
   ⟨"hp_roman8", ["cp1051", "ibm1051", "r8", "roman8"], .high
      ["\x80\x81\x82\x83\x84\x85\x86\x87\x88\x89\x8a\x8b\x8c\x8d\x8e\x8f",
       "\x90\x91\x92\x93\x94\x95\x96\x97\x98\x99\x9a\x9b\x9c\x9d\x9e\x9f",
       "\xa0ÀÂÈÊËÎÏ´ˋˆ¨˜ÙÛ₤",
       "¯Ýý°ÇçÑñ¡¿¤£¥§ƒ¢",
       "âêôûáéóúàèòùäëöü",
       "ÅîØÆåíøæÄìÖÜÉïßÔ",
       "ÁÃãÐðÍÌÓÒÕõŠšÚŸÿ",
       "Þþ·µ¶¾—¼½ªº«■»±"]⟩,
   ⟨"latin_1",
     ["8859", "cp819", "csisolatin1", "ibm819", "iso8859", "iso8859_1", "iso_8859_1",
      "iso_8859_1_1987", "iso_ir_100", "l1", "latin", "latin1"],
     .identity⟩,
   ⟨"iso8859_10",
     ["csisolatin6", "iso_8859_10", "iso_8859_10_1992", "iso_ir_157", "l6", "latin6"],
     .high
      ["\x80\x81\x82\x83\x84\x85\x86\x87\x88\x89\x8a\x8b\x8c\x8d\x8e\x8f",
       "\x90\x91\x92\x93\x94\x95\x96\x97\x98\x99\x9a\x9b\x9c\x9d\x9e\x9f",
       "\xa0ĄĒĢĪĨĶ§ĻĐŠŦŽ\xadŪŊ",
       "°ąēģīĩķ·ļđšŧž―ūŋ",
       "ĀÁÂÃÄÅÆĮČÉĘËĖÍÎÏ",
       "ÐŅŌÓÔÕÖŨØŲÚÛÜÝÞß",
       "āáâãäåæįčéęëėíîï",
       "ðņōóôõöũøųúûüýþĸ"]⟩,
   ⟨"iso8859_11", ["iso_8859_11", "iso_8859_11_2001", "thai"], .high
      ["\x80\x81\x82\x83\x84\x85\x86\x87\x88\x89\x8a\x8b\x8c\x8d\x8e\x8f",
       "\x90\x91\x92\x93\x94\x95\x96\x97\x98\x99\x9a\x9b\x9c\x9d\x9e\x9f",
       "\xa0กขฃคฅฆงจฉชซฌญฎฏ",
       "ฐฑฒณดตถทธนบปผฝพฟ",
       "ภมยรฤลฦวศษสหฬอฮฯ",
       "ะ\u0e31าำ\u0e34\u0e35\u0e36\u0e37\u0e38\u0e39\u0e3a����฿",
       "เแโใไๅๆ\u0e47\u0e48\u0e49\u0e4a\u0e4b\u0e4c\u0e4d\u0e4e๏",
       "๐๑๒๓๔๕๖๗๘๙๚๛"]⟩,
   ⟨"iso8859_13", ["iso_8859_13", "l7", "latin7"], .high
      ["\x80\x81\x82\x83\x84\x85\x86\x87\x88\x89\x8a\x8b\x8c\x8d\x8e\x8f",
       "\x90\x91\x92\x93\x94\x95\x96\x97\x98\x99\x9a\x9b\x9c\x9d\x9e\x9f",
       "\xa0”¢£¤„¦§Ø©Ŗ«¬\xad®Æ",
       "°±²³“µ¶·ø¹ŗ»¼½¾æ",
       "ĄĮĀĆÄÅĘĒČÉŹĖĢĶĪĻ",
       "ŠŃŅÓŌÕÖ×ŲŁŚŪÜŻŽß",
       "ąįāćäåęēčéźėģķīļ",
       "šńņóōõö÷ųłśūüżž’"]⟩,
   ⟨"iso8859_14",
     ["iso_8859_14", "iso_8859_14_1998", "iso_celtic", "iso_ir_199", "l8", "latin8"],
     .high
      ["\x80\x81\x82\x83\x84\x85\x86\x87\x88\x89\x8a\x8b\x8c\x8d\x8e\x8f",
       "\x90\x91\x92\x93\x94\x95\x96\x97\x98\x99\x9a\x9b\x9c\x9d\x9e\x9f",
       "\xa0Ḃḃ£ĊċḊ§Ẁ©ẂḋỲ\xad®Ÿ",
       "ḞḟĠġṀṁ¶ṖẁṗẃṠỳẄẅṡ",
       "ÀÁÂÃÄÅÆÇÈÉÊËÌÍÎÏ",
       "ŴÑÒÓÔÕÖṪØÙÚÛÜÝŶß",
       "àáâãäåæçèéêëìíîï",
       "ŵñòóôõöṫøùúûüýŷÿ"]⟩,
   ⟨"iso8859_15", ["iso_8859_15", "l9", "latin9"], .high
      ["\x80\x81\x82\x83\x84\x85\x86\x87\x88\x89\x8a\x8b\x8c\x8d\x8e\x8f",
       "\x90\x91\x92\x93\x94\x95\x96\x97\x98\x99\x9a\x9b\x9c\x9d\x9e\x9f",
       "\xa0¡¢£€¥Š§š©ª«¬\xad®¯",
       "°±²³Žµ¶·ž¹º»ŒœŸ¿",
       "ÀÁÂÃÄÅÆÇÈÉÊËÌÍÎÏ",
       "ÐÑÒÓÔÕÖ×ØÙÚÛÜÝÞß",
       "àáâãäåæçèéêëìíîï",
       "ðñòóôõö÷øùúûüýþÿ"]⟩,
   ⟨"iso8859_16", ["iso_8859_16", "iso_8859_16_2001", "iso_ir_226", "l10", "latin10"], .high
      ["\x80\x81\x82\x83\x84\x85\x86\x87\x88\x89\x8a\x8b\x8c\x8d\x8e\x8f",
       "\x90\x91\x92\x93\x94\x95\x96\x97\x98\x99\x9a\x9b\x9c\x9d\x9e\x9f",
       "\xa0ĄąŁ€„Š§š©Ș«Ź\xadźŻ",
       "°±ČłŽ”¶·žčș»ŒœŸż",
       "ÀÁÂĂÄĆÆÇÈÉÊËÌÍÎÏ",
       "ĐŃÒÓÔŐÖŚŰÙÚÛÜĘȚß",
       "àáâăäćæçèéêëìíîï",
       "đńòóôőöśűùúûüęțÿ"]⟩,
   ⟨"iso8859_2",
     ["csisolatin2", "iso_8859_2", "iso_8859_2_1987", "iso_ir_101", "l2", "latin2"],
     .high
      ["\x80\x81\x82\x83\x84\x85\x86\x87\x88\x89\x8a\x8b\x8c\x8d\x8e\x8f",
       "\x90\x91\x92\x93\x94\x95\x96\x97\x98\x99\x9a\x9b\x9c\x9d\x9e\x9f",
       "\xa0Ą˘Ł¤ĽŚ§¨ŠŞŤŹ\xadŽŻ",
       "°ą˛ł´ľśˇ¸šşťź˝žż",
       "ŔÁÂĂÄĹĆÇČÉĘËĚÍÎĎ",
       "ĐŃŇÓÔŐÖ×ŘŮÚŰÜÝŢß",
       "ŕáâăäĺćçčéęëěíîď",
       "đńňóôőö÷řůúűüýţ˙"]⟩,
   ⟨"iso8859_3",
     ["csisolatin3", "iso_8859_3", "iso_8859_3_1988", "iso_ir_109", "l3", "latin3"],
     .high
      ["\x80\x81\x82\x83\x84\x85\x86\x87\x88\x89\x8a\x8b\x8c\x8d\x8e\x8f",
       "\x90\x91\x92\x93\x94\x95\x96\x97\x98\x99\x9a\x9b\x9c\x9d\x9e\x9f",
       "\xa0Ħ˘£¤�Ĥ§¨İŞĞĴ\xad�Ż",
       "°ħ²³´µĥ·¸ışğĵ½�ż",
       "ÀÁÂ�ÄĊĈÇÈÉÊËÌÍÎÏ",
       "�ÑÒÓÔĠÖ×ĜÙÚÛÜŬŜß",
       "àáâ�äċĉçèéêëìíîï",
       "�ñòóôġö÷ĝùúûüŭŝ˙"]⟩,
   ⟨"iso8859_4",
     ["csisolatin4", "iso_8859_4", "iso_8859_4_1988", "iso_ir_110", "l4", "latin4"],
     .high
      ["\x80\x81\x82\x83\x84\x85\x86\x87\x88\x89\x8a\x8b\x8c\x8d\x8e\x8f",
       "\x90\x91\x92\x93\x94\x95\x96\x97\x98\x99\x9a\x9b\x9c\x9d\x9e\x9f",
       "\xa0ĄĸŖ¤ĨĻ§¨ŠĒĢŦ\xadŽ¯",
       "°ą˛ŗ´ĩļˇ¸šēģŧŊžŋ",
       "ĀÁÂÃÄÅÆĮČÉĘËĖÍÎĪ",
       "ĐŅŌĶÔÕÖ×ØŲÚÛÜŨŪß",
       "āáâãäåæįčéęëėíîī",
       "đņōķôõö÷øųúûüũū˙"]⟩,
   ⟨"iso8859_5",
     ["csisolatincyrillic", "cyrillic", "iso_8859_5", "iso_8859_5_1988", "iso_ir_144"],
     .high
      ["\x80\x81\x82\x83\x84\x85\x86\x87\x88\x89\x8a\x8b\x8c\x8d\x8e\x8f",
       "\x90\x91\x92\x93\x94\x95\x96\x97\x98\x99\x9a\x9b\x9c\x9d\x9e\x9f",
       "\xa0ЁЂЃЄЅІЇЈЉЊЋЌ\xadЎЏ",
       "АБВГДЕЖЗИЙКЛМНОП",
       "РСТУФХЦЧШЩЪЫЬЭЮЯ",
       "абвгдежзийклмноп",
       "рстуфхцчшщъыьэюя",
       "№ёђѓєѕіїјљњћќ§ўџ"]⟩,
   ⟨"iso8859_6",
     ["arabic", "asmo_708", "csisolatinarabic", "ecma_114", "iso_8859_6", "iso_8859_6_1987",
      "iso_ir_127"],
     .high
      ["\x80\x81\x82\x83\x84\x85\x86\x87\x88\x89\x8a\x8b\x8c\x8d\x8e\x8f",
       "\x90\x91\x92\x93\x94\x95\x96\x97\x98\x99\x9a\x9b\x9c\x9d\x9e\x9f",
       "\xa0���¤�������،\xad",
       "�����������\u061b���\u061f",
       "�\u0621\u0622\u0623\u0624\u0625\u0626\u0627\u0628\u0629\u062a\u062b\u062c\u062d\u062e\u062f",
       "\u0630\u0631\u0632\u0633\u0634\u0635\u0636\u0637\u0638\u0639\u063a",
       "\u0640\u0641\u0642\u0643\u0644\u0645\u0646\u0647\u0648\u0649\u064a\u064b\u064c\u064d\u064e\u064f",
       "\u0650\u0651\u0652"]⟩,
   ⟨"iso8859_7",
     ["csisolatingreek", "ecma_118", "elot_928", "greek", "greek8", "iso_8859_7",
      "iso_8859_7_1987", "iso_ir_126"],
     .high
      ["\x80\x81\x82\x83\x84\x85\x86\x87\x88\x89\x8a\x8b\x8c\x8d\x8e\x8f",
       "\x90\x91\x92\x93\x94\x95\x96\x97\x98\x99\x9a\x9b\x9c\x9d\x9e\x9f",
       "\xa0‘’£€₯¦§¨©ͺ«¬\xad�―",
       "°±²³΄΅Ά·ΈΉΊ»Ό½ΎΏ",
       "ΐΑΒΓΔΕΖΗΘΙΚΛΜΝΞΟ",
       "ΠΡ�ΣΤΥΦΧΨΩΪΫάέήί",
       "ΰαβγδεζηθικλμνξο",
       "πρςστυφχψωϊϋόύώ"]⟩,
   ⟨"iso8859_8",
     ["csisolatinhebrew", "hebrew", "iso_8859_8", "iso_8859_8_1988", "iso_ir_138"],
     .high
      ["\x80\x81\x82\x83\x84\x85\x86\x87\x88\x89\x8a\x8b\x8c\x8d\x8e\x8f",
       "\x90\x91\x92\x93\x94\x95\x96\x97\x98\x99\x9a\x9b\x9c\x9d\x9e\x9f",
       "\xa0�¢£¤¥¦§¨©×«¬\xad®¯",
       "°±²³´µ¶·¸¹÷»¼½¾",
       "",
       "���������������‗",
       "\u05d0\u05d1\u05d2\u05d3\u05d4\u05d5\u05d6\u05d7\u05d8\u05d9\u05da\u05db\u05dc\u05dd\u05de\u05df",
       "\u05e0\u05e1\u05e2\u05e3\u05e4\u05e5\u05e6\u05e7\u05e8\u05e9\u05ea��\u200e\u200f"]⟩,
   ⟨"iso8859_9",
     ["csisolatin5", "iso_8859_9", "iso_8859_9_1989", "iso_ir_148", "l5", "latin5"],
     .high
      ["\x80\x81\x82\x83\x84\x85\x86\x87\x88\x89\x8a\x8b\x8c\x8d\x8e\x8f",
       "\x90\x91\x92\x93\x94\x95\x96\x97\x98\x99\x9a\x9b\x9c\x9d\x9e\x9f",
       "\xa0¡¢£¤¥¦§¨©ª«¬\xad®¯",
       "°±²³´µ¶·¸¹º»¼½¾¿",
       "ÀÁÂÃÄÅÆÇÈÉÊËÌÍÎÏ",
       "ĞÑÒÓÔÕÖ×ØÙÚÛÜİŞß",
       "àáâãäåæçèéêëìíîï",
       "ğñòóôõö÷øùúûüışÿ"]⟩,
   ⟨"koi8_r", ["cskoi8r"], .high
      ["─│┌┐└┘├┤┬┴┼▀▄█▌▐",
       "░▒▓⌠■∙√≈≤≥\xa0⌡°²·÷",
       "═║╒ё╓╔╕╖╗╘╙╚╛╜╝╞",
       "╟╠╡Ё╢╣╤╥╦╧╨╩╪╫╬©",
       "юабцдефгхийклмно",
       "пярстужвьызшэщчъ",
       "ЮАБЦДЕФГХИЙКЛМНО",
       "ПЯРСТУЖВЬЫЗШЭЩЧЪ"]⟩,
   ⟨"koi8_t", [], .high
      ["қғ‚Ғ„…†‡�‰ҳ‹ҲҷҶ",
       "Қ‘’“”•–—�™�›",
       "�ӯӮё¤ӣ¦§���«¬\xad®",
       "°±²Ё�Ӣ¶·�№�»���©",
       "юабцдефгхийклмно",
       "пярстужвьызшэщчъ",
       "ЮАБЦДЕФГХИЙКЛМНО",
       "ПЯРСТУЖВЬЫЗШЭЩЧЪ"]⟩,
   ⟨"koi8_u", [], .high
      ["─│┌┐└┘├┤┬┴┼▀▄█▌▐",
       "░▒▓⌠■∙√≈≤≥\xa0⌡°²·÷",
       "═║╒ёє╔ії╗╘╙╚╛ґ╝╞",
       "╟╠╡ЁЄ╣ІЇ╦╧╨╩╪Ґ╬©",
       "юабцдефгхийклмно",
       "пярстужвьызшэщчъ",
       "ЮАБЦДЕФГХИЙКЛМНО",
       "ПЯРСТУЖВЬЫЗШЭЩЧЪ"]⟩,
   ⟨"kz1048", ["kz_1048", "rk1048", "strk1048_2002"], .high
      ["ЂЃ‚ѓ„…†‡€‰Љ‹ЊҚҺЏ",
       "ђ‘’“”•–—�™љ›њқһџ",
       "\xa0ҰұӘ¤Ө¦§Ё©Ғ«¬\xad®Ү",
       "°±Ііөµ¶·ё№ғ»әҢңү",
       "АБВГДЕЖЗИЙКЛМНОП",
       "РСТУФХЦЧШЩЪЫЬЭЮЯ",
       "абвгдежзийклмноп",
       "рстуфхцчшщъыьэюя"]⟩,
   ⟨"mac_arabic", [], .high
      ["Ä\xa0ÇÉÑÖÜáàâä\u06ba«çéè",
       "êëí…îïñó»ôö÷úùûü",
       " !\"#$٪&'()*+،-./",
       "\u0660\u0661\u0662\u0663\u0664\u0665\u0666\u0667\u0668\u0669:\u061b<=>\u061f",
       "❊\u0621\u0622\u0623\u0624\u0625\u0626\u0627\u0628\u0629\u062a\u062b\u062c\u062d\u062e\u062f",
       "\u0630\u0631\u0632\u0633\u0634\u0635\u0636\u0637\u0638\u0639\u063a[\\]^_",
       "\u0640\u0641\u0642\u0643\u0644\u0645\u0646\u0647\u0648\u0649\u064a\u064b\u064c\u064d\u064e\u064f",
       "\u0650\u0651\u0652\u067e\u0679\u0686\u06d5\u06a4\u06af\u0688\u0691\x7b|\x7d\u0698\u06d2"]⟩,
   ⟨"mac_croatian", [], .high
      ["ÄÅÇÉÑÖÜáàâäãåçéè",
       "êëíìîïñóòôöõúùûü",
       "†°¢£§•¶ß®Š™´¨≠ŽØ",
       "∞±≤≥∆µ∂∑∏š∫ªºΩžø",
       "¿¡¬√ƒ≈Ć«Č…\xa0ÀÃÕŒœ",
       "Đ—“”‘’÷◊\uf8ff©⁄€‹›Æ»",
       "–·‚„‰ÂćÁčÈÍÎÏÌÓÔ",
       "đÒÚÛÙıˆ˜¯πË˚¸Êæˇ"]⟩,
   ⟨"mac_cyrillic", ["maccyrillic"], .high
      ["АБВГДЕЖЗИЙКЛМНОП",
       "РСТУФХЦЧШЩЪЫЬЭЮЯ",
       "†°Ґ£§•¶І®©™Ђђ≠Ѓѓ",
       "∞±≤≥іµґЈЄєЇїЉљЊњ",
       "јЅ¬√ƒ≈∆«»…\xa0ЋћЌќѕ",
       "–—“”‘’÷„ЎўЏџ№Ёёя",
       "абвгдежзийклмноп",
       "рстуфхцчшщъыьэю€"]⟩,
   ⟨"mac_farsi", [], .high
      ["Ä\xa0ÇÉÑÖÜáàâä\u06ba«çéè",
       "êëí…îïñó»ôö÷úùûü",
       " !\"#$٪&'()*+،-./",
       "۰۱۲۳۴۵۶۷۸۹:\u061b<=>\u061f",
       "❊\u0621\u0622\u0623\u0624\u0625\u0626\u0627\u0628\u0629\u062a\u062b\u062c\u062d\u062e\u062f",
       "\u0630\u0631\u0632\u0633\u0634\u0635\u0636\u0637\u0638\u0639\u063a[\\]^_",
       "\u0640\u0641\u0642\u0643\u0644\u0645\u0646\u0647\u0648\u0649\u064a\u064b\u064c\u064d\u064e\u064f",
       "\u0650\u0651\u0652\u067e\u0679\u0686\u06d5\u06a4\u06af\u0688\u0691\x7b|\x7d\u0698\u06d2"]⟩,
   ⟨"mac_greek", ["macgreek"], .high
      ["Ä¹²É³ÖÜ΅àâä΄¨çéè",
       "êë£™îï•½‰ôö¦€ùûü",
       "†ΓΔΘΛΞΠß®©ΣΪ§≠°·",
       "Α±≤≥¥ΒΕΖΗΙΚΜΦΫΨΩ",
       "άΝ¬ΟΡ≈Τ«»…\xa0ΥΧΆΈœ",
       "–―“”‘’÷ΉΊΌΎέήίόΏ",
       "ύαβψδεφγηιξκλμνο",
       "πώρστθωςχυζϊϋΐΰ\xad"]⟩,
   ⟨"mac_iceland", ["maciceland"], .high
      ["ÄÅÇÉÑÖÜáàâäãåçéè",
       "êëíìîïñóòôöõúùûü",
       "Ý°¢£§•¶ß®©™´¨≠ÆØ",
       "∞±≤≥¥µ∂∑∏π∫ªºΩæø",
       "¿¡¬√ƒ≈∆«»…\xa0ÀÃÕŒœ",
       "–—“”‘’÷◊ÿŸ⁄€ÐðÞþ",
       "ý·‚„‰ÂÊÁËÈÍÎÏÌÓÔ",
       "\uf8ffÒÚÛÙıˆ˜¯˘˙˚¸˝˛ˇ"]⟩,
   ⟨"mac_latin2", ["mac_centeuro", "maccentraleurope", "maclatin2"], .high
      ["ÄĀāÉĄÖÜáąČäčĆćéŹ",
       "źĎíďĒēĖóėôöõúĚěü",
       "†°Ę£§•¶ß®©™ę¨≠ģĮ",
       "įĪ≤≥īĶ∂∑łĻļĽľĹĺŅ",
       "ņŃ¬√ńŇ∆«»…\xa0ňŐÕőŌ",
       "–—“”‘’÷◊ōŔŕŘ‹›řŖ",
       "ŗŠ‚„šŚśÁŤťÍŽžŪÓÔ",
       "ūŮÚůŰűŲųÝýķŻŁżĢˇ"]⟩,
   ⟨"mac_roman", ["macintosh", "macroman"], .high
      ["ÄÅÇÉÑÖÜáàâäãåçéè",
       "êëíìîïñóòôöõúùûü",
       "†°¢£§•¶ß®©™´¨≠ÆØ",
       "∞±≤≥¥µ∂∑∏π∫ªºΩæø",
       "¿¡¬√ƒ≈∆«»…\xa0ÀÃÕŒœ",
       "–—“”‘’÷◊ÿŸ⁄€‹›ﬁﬂ",
       "‡·‚„‰ÂÊÁËÈÍÎÏÌÓÔ",
       "\uf8ffÒÚÛÙıˆ˜¯˘˙˚¸˝˛ˇ"]⟩,
   ⟨"mac_romanian", [], .high
      ["ÄÅÇÉÑÖÜáàâäãåçéè",
       "êëíìîïñóòôöõúùûü",
       "†°¢£§•¶ß®©™´¨≠ĂȘ",
       "∞±≤≥¥µ∂∑∏π∫ªºΩăș",
       "¿¡¬√ƒ≈∆«»…\xa0ÀÃÕŒœ",
       "–—“”‘’÷◊ÿŸ⁄€‹›Țț",
       "‡·‚„‰ÂÊÁËÈÍÎÏÌÓÔ",
       "\uf8ffÒÚÛÙıˆ˜¯˘˙˚¸˝˛ˇ"]⟩,
   ⟨"mac_turkish", ["macturkish"], .high
      ["ÄÅÇÉÑÖÜáàâäãåçéè",
       "êëíìîïñóòôöõúùûü",
       "†°¢£§•¶ß®©™´¨≠ÆØ",
       "∞±≤≥¥µ∂∑∏π∫ªºΩæø",
       "¿¡¬√ƒ≈∆«»…\xa0ÀÃÕŒœ",
       "–—“”‘’÷◊ÿŸĞğİıŞş",
       "‡·‚„‰ÂÊÁËÈÍÎÏÌÓÔ",
       "\uf8ffÒÚÛÙ\uf8a0ˆ˜¯˘˙˚¸˝˛ˇ"]⟩,
   ⟨"palmos", [], .high
      ["€\x81‚ƒ„…†‡ˆ‰Š‹Œ♦♣♥",
       "♠‘’“”•–—˜™š\x9bœ\x9d\x9eŸ",
       "\xa0¡¢£¤¥¦§¨©ª«¬\xad®¯",
       "°±²³´µ¶·¸¹º»¼½¾¿",
       "ÀÁÂÃÄÅÆÇÈÉÊËÌÍÎÏ",
       "ÐÑÒÓÔÕÖ×ØÙÚÛÜÝÞß",
       "àáâãäåæçèéêëìíîï",
       "ðñòóôõö÷øùúûüýþÿ"]⟩,
   ⟨"ptcp154", ["cp154", "csptcp154", "cyrillic_asian", "pt154"], .high
      ["ҖҒӮғ„…ҶҮҲүҠӢҢҚҺҸ",
       "җ‘’“”•–—ҳҷҡӣңқһҹ",
       "\xa0ЎўЈӨҘҰ§Ё©Ә«¬ӯ®Ҝ",
       "°ұІіҙө¶·ё№ә»јҪҫҝ",
       "АБВГДЕЖЗИЙКЛМНОП",
       "РСТУФХЦЧШЩЪЫЬЭЮЯ",
       "абвгдежзийклмноп",
       "рстуфхцчшщъыьэюя"]⟩,
   ⟨"tis_620",
     ["iso_ir_166", "tis620", "tis_620_0", "tis_620_2529_0", "tis_620_2529_1"],
     .high
      ["\x80\x81\x82\x83\x84\x85\x86\x87\x88\x89\x8a\x8b\x8c\x8d\x8e\x8f",
       "\x90\x91\x92\x93\x94\x95\x96\x97\x98\x99\x9a\x9b\x9c\x9d\x9e\x9f",
       "�กขฃคฅฆงจฉชซฌญฎฏ",
       "ฐฑฒณดตถทธนบปผฝพฟ",
       "ภมยรฤลฦวศษสหฬอฮฯ",
       "ะ\u0e31าำ\u0e34\u0e35\u0e36\u0e37\u0e38\u0e39\u0e3a����฿",
       "เแโใไๅๆ\u0e47\u0e48\u0e49\u0e4a\u0e4b\u0e4c\u0e4d\u0e4e๏",
       "๐๑๒๓๔๕๖๗๘๙๚๛"]⟩]

end CsdlRoutes.Text.Charset
