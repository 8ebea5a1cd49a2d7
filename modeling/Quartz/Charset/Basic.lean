import Quartz.Charset.Chinese
import Quartz.Charset.CodePage
import Quartz.Charset.Japanese
import Quartz.Charset.Korean
import Quartz.Charset.Library
import Quartz.Charset.Unicode

/-!
# `Quartz.Charset.Basic`: the charsets of the web

The library of charsets that the program comes with knows those of the web
by their labels. It reads every text: bytes that mean nothing in a charset
are replaced.
-/

set_option autoImplicit false

namespace Quartz

/-- A charset. UTF-8 and UTF-16 come with and without regard to a mark at
the start. The charset of nothing stands for those that are refused: no text
can be read in it. -/
inductive Charset where
  | markedUtf8
  | utf8
  | markedUtf16
  | utf16 (order : Charset.ByteOrder)
  | page (p : Charset.CodePage)
  | shiftJis
  | eucJp
  | iso2022Jp
  | gbk
  | gb18030
  | big5
  | eucKr
  | nothing
  deriving DecidableEq, Repr

namespace Charset

/-- The labels of the charsets of several bytes. -/
def labels : List (Charset × List String) :=
  [(.utf8, ["unicode-1-1-utf-8", "utf-8", "utf8"]),
    (.utf16 .little, ["utf-16", "utf-16le"]),
    (.utf16 .big, ["utf-16be"]),
    (.shiftJis,
      ["csshiftjis", "ms932", "ms_kanji", "shift-jis", "shift_jis", "sjis", "windows-31j",
        "x-sjis"]),
    (.eucJp, ["cseucpkdfmtjapanese", "euc-jp", "x-euc-jp"]),
    (.iso2022Jp, ["csiso2022jp", "iso-2022-jp"]),
    (.gbk,
      ["chinese", "csgb2312", "csiso58gb231280", "gb2312", "gb_2312", "gb_2312-80", "gbk",
        "iso-ir-58", "x-gbk"]),
    (.gb18030, ["gb18030"]),
    (.big5, ["big5", "big5-hkscs", "cn-big5", "csbig5", "x-x-big5"]),
    (.eucKr,
      ["cseuckr", "csksc56011987", "euc-kr", "iso-ir-149", "korean", "ks_c_5601-1987",
        "ks_c_5601-1989", "ksc5601", "ksc_5601", "windows-949"]),
    (.nothing,
      ["csiso2022kr", "hz-gb-2312", "iso-2022-cn", "iso-2022-cn-ext", "iso-2022-kr",
        "replacement"])]

/-- The labels of the code pages. -/
def pageLabels : List (CodePage × List String) :=
  [(.ibm866, ["866", "cp866", "csibm866", "ibm866"]),
    (.iso2,
      ["csisolatin2", "iso-8859-2", "iso-ir-101", "iso8859-2", "iso88592", "iso_8859-2",
        "iso_8859-2:1987", "l2", "latin2"]),
    (.iso3,
      ["csisolatin3", "iso-8859-3", "iso-ir-109", "iso8859-3", "iso88593", "iso_8859-3",
        "iso_8859-3:1988", "l3", "latin3"]),
    (.iso4,
      ["csisolatin4", "iso-8859-4", "iso-ir-110", "iso8859-4", "iso88594", "iso_8859-4",
        "iso_8859-4:1988", "l4", "latin4"]),
    (.iso5,
      ["csisolatincyrillic", "cyrillic", "iso-8859-5", "iso-ir-144", "iso8859-5", "iso88595",
        "iso_8859-5", "iso_8859-5:1988"]),
    (.iso6,
      ["arabic", "asmo-708", "csiso88596e", "csiso88596i", "csisolatinarabic", "ecma-114",
        "iso-8859-6", "iso-8859-6-e", "iso-8859-6-i", "iso-ir-127", "iso8859-6", "iso88596",
        "iso_8859-6", "iso_8859-6:1987"]),
    (.iso7,
      ["csisolatingreek", "ecma-118", "elot_928", "greek", "greek8", "iso-8859-7",
        "iso-ir-126", "iso8859-7", "iso88597", "iso_8859-7", "iso_8859-7:1987",
        "sun_eu_greek"]),
    (.iso8,
      ["csiso88598e", "csiso88598i", "csisolatinhebrew", "hebrew", "iso-8859-8",
        "iso-8859-8-e", "iso-8859-8-i", "iso-ir-138", "iso8859-8", "iso88598", "iso_8859-8",
        "iso_8859-8:1988", "logical", "visual"]),
    (.iso10,
      ["csisolatin6", "iso-8859-10", "iso-ir-157", "iso8859-10", "iso885910", "l6", "latin6"]),
    (.iso13, ["iso-8859-13", "iso8859-13", "iso885913"]),
    (.iso14, ["iso-8859-14", "iso8859-14", "iso885914"]),
    (.iso15,
      ["csisolatin9", "iso-8859-15", "iso8859-15", "iso885915", "iso_8859-15", "l9"]),
    (.iso16, ["iso-8859-16"]),
    (.koi8R, ["cskoi8r", "koi", "koi8", "koi8-r", "koi8_r"]),
    (.koi8U, ["koi8-ru", "koi8-u"]),
    (.macRoman, ["csmacintosh", "mac", "macintosh", "x-mac-roman"]),
    (.macCyrillic, ["x-mac-cyrillic", "x-mac-ukrainian"]),
    (.windows874,
      ["dos-874", "iso-8859-11", "iso8859-11", "iso885911", "tis-620", "windows-874"]),
    (.windows1250, ["cp1250", "windows-1250", "x-cp1250"]),
    (.windows1251, ["cp1251", "windows-1251", "x-cp1251"]),
    (.windows1252,
      ["ansi_x3.4-1968", "ascii", "cp1252", "cp819", "csisolatin1", "ibm819", "iso-8859-1",
        "iso-ir-100", "iso8859-1", "iso88591", "iso_8859-1", "iso_8859-1:1987", "l1", "latin1",
        "us-ascii", "windows-1252", "x-cp1252"]),
    (.windows1253, ["cp1253", "windows-1253", "x-cp1253"]),
    (.windows1254,
      ["cp1254", "csisolatin5", "iso-8859-9", "iso-ir-148", "iso8859-9", "iso88599",
        "iso_8859-9", "iso_8859-9:1989", "l5", "latin5", "windows-1254", "x-cp1254"]),
    (.windows1255, ["cp1255", "windows-1255", "x-cp1255"]),
    (.windows1256, ["cp1256", "windows-1256", "x-cp1256"]),
    (.windows1257, ["cp1257", "windows-1257", "x-cp1257"]),
    (.windows1258, ["cp1258", "windows-1258", "x-cp1258"]),
    (.userDefined, ["x-user-defined"])]

/-- A blank around a label. -/
def isLabelBlank (b : UInt8) : Bool := b = 9 || b = 10 || b = 12 || b = 13 || b = 32

/-- What a table has under a label. -/
def underLabel? {α : Type} (table : List (α × List String)) (word : Bytes) : Option α :=
  (table.find? fun p => p.2.any fun l => Quartz.utf8 l = word).map Prod.fst

/-- The charset with a label. Blanks around it and its case do not count. -/
def labelled? (label : Bytes) : Option Charset :=
  let word := (Bytes.trimEnd isLabelBlank (label.dropWhile isLabelBlank)).toLower
  (underLabel? labels word).or ((underLabel? pageLabels word).map .page)

/-- Bytes in a charset as characters. -/
def read : Charset → Bytes → List Char
  | .markedUtf8, s => readMarkedUtf8 s
  | .utf8, s => readUtf8 s
  | .markedUtf16, s => readMarkedUtf16 s
  | .utf16 o, s => readUtf16 o s
  | .page p, s => s.map p.char
  | .shiftJis, s => Piece.readAll shiftJisPiece s
  | .eucJp, s => Piece.readAll eucJpPiece s
  | .iso2022Jp, s => readIso2022Jp .ascii s
  | .gbk, s => Piece.readAll (gbkPiece false) s
  | .gb18030, s => Piece.readAll (gbkPiece true) s
  | .big5, s => Piece.readAll big5Piece s
  | .eucKr, s => Piece.readAll eucKrPiece s
  | .nothing, _ => [Rune.replacement]

/-- Bytes in a charset as UTF-8. -/
def convert (c : Charset) (s : Bytes) : Bytes := (c.read s).flatMap String.utf8EncodeChar

/-- The library of these charsets. -/
def web : Library where
  markedUtf8 s := .ok (convert .markedUtf8 s)
  markedUtf16 s := .ok (convert .markedUtf16 s)
  labelled? label := (labelled? label).map fun c s => .ok (c.convert s)

end Charset

end Quartz
