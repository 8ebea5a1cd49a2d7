import Quartz.Text.Utf8

/-!
# `Quartz.Charset.CodePage`: charsets of one byte

A code page reads a byte below `80` as ASCII and gives each of the others a
character of its own, or none. The control characters from `80` to `9F` are
assigned to no byte.
-/

set_option autoImplicit false

namespace Quartz.Charset

/-- A code page. The parts of ISO 8859 go by their numbers. -/
inductive CodePage where
  | ibm866
  | iso2
  | iso3
  | iso4
  | iso5
  | iso6
  | iso7
  | iso8
  | iso10
  | iso13
  | iso14
  | iso15
  | iso16
  | koi8R
  | koi8U
  | macRoman
  | macCyrillic
  | windows874
  | windows1250
  | windows1251
  | windows1252
  | windows1253
  | windows1254
  | windows1255
  | windows1256
  | windows1257
  | windows1258
  | userDefined
  deriving DecidableEq, Repr

namespace CodePage

/-- The characters of the bytes from `80` on, in rows of thirty-two. A blank
stands for an unassigned byte, and a row may be shorter than its bytes. The
page for private use has no table. -/
def rows : CodePage → List String
  | .ibm866 =>
    ["АБВГДЕЖЗИЙКЛМНОПРСТУФХЦЧШЩЪЫЬЭЮЯ",
      "абвгдежзийклмноп░▒▓│┤╡╢╖╕╣║╗╝╜╛┐",
      "└┴┬├─┼╞╟╚╔╩╦╠═╬╧╨╤╥╙╘╒╓╫╪┘┌█▄▌▐▀",
      "рстуфхцчшщъыьэюяЁёЄєЇїЎў°∙·√№¤■\u00a0"]
  | .iso2 =>
    ["",
      "\u00a0Ą˘Ł¤ĽŚ§¨ŠŞŤŹ\u00adŽŻ°ą˛ł´ľśˇ¸šşťź˝žż",
      "ŔÁÂĂÄĹĆÇČÉĘËĚÍÎĎĐŃŇÓÔŐÖ×ŘŮÚŰÜÝŢß",
      "ŕáâăäĺćçčéęëěíîďđńňóôőö÷řůúűüýţ˙"]
  | .iso3 =>
    ["",
      "\u00a0Ħ˘£¤ Ĥ§¨İŞĞĴ\u00ad Ż°ħ²³´µĥ·¸ışğĵ½ ż",
      "ÀÁÂ ÄĊĈÇÈÉÊËÌÍÎÏ ÑÒÓÔĠÖ×ĜÙÚÛÜŬŜß",
      "àáâ äċĉçèéêëìíîï ñòóôġö÷ĝùúûüŭŝ˙"]
  | .iso4 =>
    ["",
      "\u00a0ĄĸŖ¤ĨĻ§¨ŠĒĢŦ\u00adŽ¯°ą˛ŗ´ĩļˇ¸šēģŧŊžŋ",
      "ĀÁÂÃÄÅÆĮČÉĘËĖÍÎĪĐŅŌĶÔÕÖ×ØŲÚÛÜŨŪß",
      "āáâãäåæįčéęëėíîīđņōķôõö÷øųúûüũū˙"]
  | .iso5 =>
    ["",
      "\u00a0ЁЂЃЄЅІЇЈЉЊЋЌ\u00adЎЏАБВГДЕЖЗИЙКЛМНОП",
      "РСТУФХЦЧШЩЪЫЬЭЮЯабвгдежзийклмноп",
      "рстуфхцчшщъыьэюя№ёђѓєѕіїјљњћќ§ўџ"]
  | .iso6 =>
    ["",
      "\u00a0   ¤       ،\u00ad             ؛   ؟",
      " ءآأؤإئابةتثجحخدذرزسشصضطظعغ",
      "ـفقكلمنهوىي\u064b\u064c\u064d\u064e\u064f\u0650\u0651\u0652"]
  | .iso7 =>
    ["",
      "\u00a0‘’£€₯¦§¨©ͺ«¬\u00ad ―°±²³΄΅Ά·ΈΉΊ»Ό½ΎΏ",
      "ΐΑΒΓΔΕΖΗΘΙΚΛΜΝΞΟΠΡ ΣΤΥΦΧΨΩΪΫάέήί",
      "ΰαβγδεζηθικλμνξοπρςστυφχψωϊϋόύώ"]
  | .iso8 =>
    ["",
      "\u00a0 ¢£¤¥¦§¨©×«¬\u00ad®¯°±²³´µ¶·¸¹÷»¼½¾",
      "                               ‗",
      "אבגדהוזחטיךכלםמןנסעףפץצקרשת  \u200e\u200f"]
  | .iso10 =>
    ["",
      "\u00a0ĄĒĢĪĨĶ§ĻĐŠŦŽ\u00adŪŊ°ąēģīĩķ·ļđšŧž―ūŋ",
      "ĀÁÂÃÄÅÆĮČÉĘËĖÍÎÏÐŅŌÓÔÕÖŨØŲÚÛÜÝÞß",
      "āáâãäåæįčéęëėíîïðņōóôõöũøųúûüýþĸ"]
  | .iso13 =>
    ["",
      "\u00a0”¢£¤„¦§Ø©Ŗ«¬\u00ad®Æ°±²³“µ¶·ø¹ŗ»¼½¾æ",
      "ĄĮĀĆÄÅĘĒČÉŹĖĢĶĪĻŠŃŅÓŌÕÖ×ŲŁŚŪÜŻŽß",
      "ąįāćäåęēčéźėģķīļšńņóōõö÷ųłśūüżž’"]
  | .iso14 =>
    ["",
      "\u00a0Ḃḃ£ĊċḊ§Ẁ©ẂḋỲ\u00ad®ŸḞḟĠġṀṁ¶ṖẁṗẃṠỳẄẅṡ",
      "ÀÁÂÃÄÅÆÇÈÉÊËÌÍÎÏŴÑÒÓÔÕÖṪØÙÚÛÜÝŶß",
      "àáâãäåæçèéêëìíîïŵñòóôõöṫøùúûüýŷÿ"]
  | .iso15 =>
    ["",
      "\u00a0¡¢£€¥Š§š©ª«¬\u00ad®¯°±²³Žµ¶·ž¹º»ŒœŸ¿",
      "ÀÁÂÃÄÅÆÇÈÉÊËÌÍÎÏÐÑÒÓÔÕÖ×ØÙÚÛÜÝÞß",
      "àáâãäåæçèéêëìíîïðñòóôõö÷øùúûüýþÿ"]
  | .iso16 =>
    ["",
      "\u00a0ĄąŁ€„Š§š©Ș«Ź\u00adźŻ°±ČłŽ”¶·žčș»ŒœŸż",
      "ÀÁÂĂÄĆÆÇÈÉÊËÌÍÎÏĐŃÒÓÔŐÖŚŰÙÚÛÜĘȚß",
      "àáâăäćæçèéêëìíîïđńòóôőöśűùúûüęțÿ"]
  | .koi8R =>
    ["─│┌┐└┘├┤┬┴┼▀▄█▌▐░▒▓⌠■∙√≈≤≥\u00a0⌡°²·÷",
      "═║╒ё╓╔╕╖╗╘╙╚╛╜╝╞╟╠╡Ё╢╣╤╥╦╧╨╩╪╫╬©",
      "юабцдефгхийклмнопярстужвьызшэщчъ",
      "ЮАБЦДЕФГХИЙКЛМНОПЯРСТУЖВЬЫЗШЭЩЧЪ"]
  | .koi8U =>
    ["─│┌┐└┘├┤┬┴┼▀▄█▌▐░▒▓⌠■∙√≈≤≥\u00a0⌡°²·÷",
      "═║╒ёє╔ії╗╘╙╚╛ґў╞╟╠╡ЁЄ╣ІЇ╦╧╨╩╪ҐЎ©",
      "юабцдефгхийклмнопярстужвьызшэщчъ",
      "ЮАБЦДЕФГХИЙКЛМНОПЯРСТУЖВЬЫЗШЭЩЧЪ"]
  | .macRoman =>
    ["ÄÅÇÉÑÖÜáàâäãåçéèêëíìîïñóòôöõúùûü",
      "†°¢£§•¶ß®©™´¨≠ÆØ∞±≤≥¥µ∂∑∏π∫ªºΩæø",
      "¿¡¬√ƒ≈∆«»…\u00a0ÀÃÕŒœ–—“”‘’÷◊ÿŸ⁄€‹›ﬁﬂ",
      "‡·‚„‰ÂÊÁËÈÍÎÏÌÓÔ\uf8ffÒÚÛÙıˆ˜¯˘˙˚¸˝˛ˇ"]
  | .macCyrillic =>
    ["АБВГДЕЖЗИЙКЛМНОПРСТУФХЦЧШЩЪЫЬЭЮЯ",
      "†°Ґ£§•¶І®©™Ђђ≠Ѓѓ∞±≤≥іµґЈЄєЇїЉљЊњ",
      "јЅ¬√ƒ≈∆«»…\u00a0ЋћЌќѕ–—“”‘’÷„ЎўЏџ№Ёёя",
      "абвгдежзийклмнопрстуфхцчшщъыьэю€"]
  | .windows874 =>
    ["€    …           ‘’“”•–—",
      "\u00a0กขฃคฅฆงจฉชซฌญฎฏฐฑฒณดตถทธนบปผฝพฟ",
      "ภมยรฤลฦวศษสหฬอฮฯะ\u0e31าำ\u0e34\u0e35\u0e36\u0e37\u0e38\u0e39\u0e3a    ฿",
      "เแโใไๅๆ\u0e47\u0e48\u0e49\u0e4a\u0e4b\u0e4c\u0e4d\u0e4e๏๐๑๒๓๔๕๖๗๘๙๚๛"]
  | .windows1250 =>
    ["€ ‚ „…†‡ ‰Š‹ŚŤŽŹ ‘’“”•–— ™š›śťžź",
      "\u00a0ˇ˘Ł¤Ą¦§¨©Ş«¬\u00ad®Ż°±˛ł´µ¶·¸ąş»Ľ˝ľż",
      "ŔÁÂĂÄĹĆÇČÉĘËĚÍÎĎĐŃŇÓÔŐÖ×ŘŮÚŰÜÝŢß",
      "ŕáâăäĺćçčéęëěíîďđńňóôőö÷řůúűüýţ˙"]
  | .windows1251 =>
    ["ЂЃ‚ѓ„…†‡€‰Љ‹ЊЌЋЏђ‘’“”•–— ™љ›њќћџ",
      "\u00a0ЎўЈ¤Ґ¦§Ё©Є«¬\u00ad®Ї°±Ііґµ¶·ё№є»јЅѕї",
      "АБВГДЕЖЗИЙКЛМНОПРСТУФХЦЧШЩЪЫЬЭЮЯ",
      "абвгдежзийклмнопрстуфхцчшщъыьэюя"]
  | .windows1252 =>
    ["€ ‚ƒ„…†‡ˆ‰Š‹Œ Ž  ‘’“”•–—˜™š›œ žŸ",
      "\u00a0¡¢£¤¥¦§¨©ª«¬\u00ad®¯°±²³´µ¶·¸¹º»¼½¾¿",
      "ÀÁÂÃÄÅÆÇÈÉÊËÌÍÎÏÐÑÒÓÔÕÖ×ØÙÚÛÜÝÞß",
      "àáâãäåæçèéêëìíîïðñòóôõö÷øùúûüýþÿ"]
  | .windows1253 =>
    ["€ ‚ƒ„…†‡ ‰ ‹     ‘’“”•–— ™ ›",
      "\u00a0΅Ά£¤¥¦§¨© «¬\u00ad®―°±²³΄µ¶·ΈΉΊ»Ό½ΎΏ",
      "ΐΑΒΓΔΕΖΗΘΙΚΛΜΝΞΟΠΡ ΣΤΥΦΧΨΩΪΫάέήί",
      "ΰαβγδεζηθικλμνξοπρςστυφχψωϊϋόύώ"]
  | .windows1254 =>
    ["€ ‚ƒ„…†‡ˆ‰Š‹Œ    ‘’“”•–—˜™š›œ  Ÿ",
      "\u00a0¡¢£¤¥¦§¨©ª«¬\u00ad®¯°±²³´µ¶·¸¹º»¼½¾¿",
      "ÀÁÂÃÄÅÆÇÈÉÊËÌÍÎÏĞÑÒÓÔÕÖ×ØÙÚÛÜİŞß",
      "àáâãäåæçèéêëìíîïğñòóôõö÷øùúûüışÿ"]
  | .windows1255 =>
    ["€ ‚ƒ„…†‡ˆ‰ ‹     ‘’“”•–—˜™ ›",
      "\u00a0¡¢£₪¥¦§¨©×«¬\u00ad®¯°±²³´µ¶·¸¹÷»¼½¾¿",
      "\u05b0\u05b1\u05b2\u05b3\u05b4\u05b5\u05b6\u05b7\u05b8\u05b9\u05ba\u05bb\u05bc\u05bd־\u05bf׀\u05c1\u05c2׃װױײ׳״",
      "אבגדהוזחטיךכלםמןנסעףפץצקרשת  \u200e\u200f"]
  | .windows1256 =>
    ["€پ‚ƒ„…†‡ˆ‰ٹ‹Œچژڈگ‘’“”•–—ک™ڑ›œ\u200c\u200dں",
      "\u00a0،¢£¤¥¦§¨©ھ«¬\u00ad®¯°±²³´µ¶·¸¹؛»¼½¾؟",
      "ہءآأؤإئابةتثجحخدذرزسشصض×طظعغـفقك",
      "àلâمنهوçèéêëىيîï\u064b\u064c\u064d\u064eô\u064f\u0650÷\u0651ù\u0652ûü\u200e\u200fے"]
  | .windows1257 =>
    ["€ ‚ „…†‡ ‰ ‹ ¨ˇ¸ ‘’“”•–— ™ › ¯˛",
      "\u00a0 ¢£¤ ¦§Ø©Ŗ«¬\u00ad®Æ°±²³´µ¶·ø¹ŗ»¼½¾æ",
      "ĄĮĀĆÄÅĘĒČÉŹĖĢĶĪĻŠŃŅÓŌÕÖ×ŲŁŚŪÜŻŽß",
      "ąįāćäåęēčéźėģķīļšńņóōõö÷ųłśūüżž˙"]
  | .windows1258 =>
    ["€ ‚ƒ„…†‡ˆ‰ ‹Œ    ‘’“”•–—˜™ ›œ  Ÿ",
      "\u00a0¡¢£¤¥¦§¨©ª«¬\u00ad®¯°±²³´µ¶·¸¹º»¼½¾¿",
      "ÀÁÂĂÄÅÆÇÈÉÊË\u0300ÍÎÏĐÑ\u0309ÓÔƠÖ×ØÙÚÛÜƯ\u0303ß",
      "àáâăäåæçèéêë\u0301íîïđñ\u0323óôơö÷øùúûüư₫ÿ"]
  | .userDefined => []

/-- The character of a byte from `80` on, counted from there. The page for
private use gives all of them a private character. -/
def upper? (p : CodePage) (n : Nat) : Option Char :=
  if p = .userDefined then some (Char.ofNat (0xF780 + n))
  else ((p.rows.getD (n / 32) "").toList[n % 32]?).filter (· ≠ ' ')

/-- The character of a byte. -/
def char (p : CodePage) (b : UInt8) : Char :=
  if b < 0x80 then Char.ofNat b.toNat else (p.upper? (b.toNat - 0x80)).getD Rune.replacement

end CodePage

end Quartz.Charset
