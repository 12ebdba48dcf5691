import RouteIR.Text.CodePage
import RouteIR.Text.EastAsian
import RouteIR.Text.Escaped
import RouteIR.Text.Punycode
import RouteIR.Text.Unit
import RouteIR.Text.Utf7

namespace RouteIR
namespace Text

/-!
# Charsets

The charset of a text tells how its bytes are read.  Charsets go by many names, in which case
and punctuation make no difference.  Some names are those of codings that give no text, or give
it only where nothing is wrong with the bytes.
-/

inductive Charset where
  /-- Units of one byte; a mark at the start may be dropped. -/
  | utf8 (dropsMark : Bool)
  /-- Units of two bytes; without a byte order, a mark has to tell it. -/
  | utf16 (order : Option ByteOrder)
  | utf32 (order : Option ByteOrder)
  /-- Sections in base 64. -/
  | utf7
  /-- Escapes, all kinds of them or only numbers. -/
  | escaped (rich : Bool)
  | punycode
  | page (page : CodePage)
  | eastAsian (page : EastAsian)
  /-- A coding of bytes as bytes. -/
  | ofBytes
  /-- A coding of text as text. -/
  | ofText
  /-- A coding that reads nothing that is not in order. -/
  | strict
deriving Repr

inductive CharsetFault where
  | notText
  | notBytes
  | notLenient
  /-- Nothing tells the byte order. -/
  | noByteOrder
  /-- The numbers of an encoding are not in ASCII. -/
  | beyondAscii
deriving DecidableEq, Repr

namespace Charset

/-- The names of the charsets that are no code pages: what each goes by, and its other names. -/
def named : List (Charset × String × List String) :=
  [(utf8 false, "utf_8", ["cp65001", "u8", "utf", "utf8", "utf8_ucs2", "utf8_ucs4"]),
   (utf8 true, "utf_8_sig", []),
   (utf16 none, "utf_16", ["u16", "utf16"]),
   (utf16 (some .littleEndian), "utf_16_le", ["unicodelittleunmarked", "utf_16le"]),
   (utf16 (some .bigEndian), "utf_16_be", ["unicodebigunmarked", "utf_16be"]),
   (utf32 none, "utf_32", ["u32", "utf32"]),
   (utf32 (some .littleEndian), "utf_32_le", ["utf_32le"]),
   (utf32 (some .bigEndian), "utf_32_be", ["utf_32be"]),
   (utf7, "utf_7", ["u7", "unicode_1_1_utf_7", "utf7"]),
   (escaped true, "unicode_escape", []),
   (escaped false, "raw_unicode_escape", []),
   (punycode, "punycode", []),
   (ofBytes, "base64_codec", ["base64", "base_64"]),
   (ofBytes, "bz2_codec", ["bz2"]),
   (ofBytes, "hex_codec", ["hex"]),
   (ofBytes, "quopri_codec", ["quopri", "quoted_printable", "quotedprintable"]),
   (ofBytes, "uu_codec", ["uu"]),
   (ofBytes, "zlib_codec", ["zip", "zlib"]),
   (ofText, "rot_13", ["rot13"]),
   (strict, "idna", []),
   (strict, "undefined", [])]

/-- The names of the East Asian code pages.  Pages that add characters to another are read as
that one. -/
def eastAsianNames : List (EastAsian × String × List String) :=
  [(.simplified, "gb2312",
      ["chinese", "csiso58gb231280", "euc_cn", "euccn", "eucgb2312_cn", "gb2312_1980",
       "gb2312_80", "iso_ir_58", "x_mac_simp_chinese"]),
   (.simplifiedExtended, "gbk", ["936", "cp936", "ms936"]),
   (.simplifiedFull, "gb18030", ["gb18030_2000"]),
   (.traditional, "big5", ["big5_tw", "csbig5", "x_mac_trad_chinese"]),
   (.traditional, "big5hkscs", ["big5_hkscs", "hkscs"]),
   (.traditionalVendor, "cp950", ["950", "ms950"]),
   (.korean, "euc_kr",
      ["euckr", "korean", "ks_c_5601", "ks_c_5601_1987", "ks_x_1001", "ksc5601", "ksx1001",
       "x_mac_korean"]),
   (.koreanExtended, "cp949", ["949", "ms949", "uhc"]),
   (.shifted, "shift_jis", ["csshiftjis", "s_jis", "shiftjis", "sjis", "x_mac_japanese"]),
   (.shifted, "shift_jis_2004", ["s_jis_2004", "shiftjis2004", "sjis_2004"]),
   (.shifted, "shift_jisx0213", ["s_jisx0213", "shiftjisx0213", "sjisx0213"]),
   (.shiftedVendor, "cp932", ["932", "ms932", "ms_kanji", "mskanji"]),
   (.japanese, "euc_jp", ["eucjp", "u_jis", "ujis"]),
   (.japanese, "euc_jis_2004", ["euc_jis2004", "eucjis2004", "jisx0213"]),
   (.japanese, "euc_jisx0213", ["eucjisx0213"])]

def all : List (Charset × String × List String) :=
  named ++ (eastAsianNames.map fun (code, names) => (eastAsian code, names)) ++
    CodePage.all.map fun code => (page code, code.name, code.aliases)

def isAlphanumeric (char : Char) : Bool := char.isAlpha || char.isDigit || char == '.'

/-- A name in small letters, with an underscore wherever anything but letters, digits and full
stops stands between them. -/
def plainName (name : List Char) : String :=
  let words := (name.splitOnP (!isAlphanumeric ·)).filter (!List.isEmpty ·)
  "_".intercalate (words.map fun word => String.ofList (word.map Char.toLower))

/-- The charset of a name.  In the other names of a charset, an underscore can be written as a
full stop. -/
def ofName? (name : String) : Option Charset :=
  let plain := plainName name.toList
  let stopless := String.ofList (plain.toList.map fun char => if char = '.' then '_' else char)
  (all.find? fun (_, own, others) =>
    others.contains plain || others.contains stopless || own == plain).map (·.1)

/-- Reads a text with a mark at its start, or so short that there is nothing to mark. -/
def decodeMarked (size : Nat) (marks : List (List UInt8 × ByteOrder))
    (decode : ByteOrder → List UInt8 → List Char) (bytes : List UInt8) :
    Except CharsetFault (List Char) :=
  match marks.find? fun mark => mark.1.isPrefixOf bytes with
  | some (mark, order) => .ok (decode order (bytes.drop mark.length))
  | none =>
      if bytes.length < size then .ok (decode .littleEndian bytes) else .error .noByteOrder

def decode (charset : Charset) (bytes : List UInt8) : Except CharsetFault (List Char) :=
  match charset with
  | utf8 dropsMark =>
      if dropsMark && utf8Mark.isPrefixOf bytes then .ok (decodeUtf8 none (bytes.drop utf8Mark.length))
      else .ok (decodeUtf8 none bytes)
  | utf16 none =>
      decodeMarked 2 [([0xFF, 0xFE], .littleEndian), ([0xFE, 0xFF], .bigEndian)] decodeUtf16 bytes
  | utf16 (some order) => .ok (decodeUtf16 order bytes)
  | utf32 none =>
      decodeMarked 4 [([0xFF, 0xFE, 0, 0], .littleEndian), ([0, 0, 0xFE, 0xFF], .bigEndian)]
        decodeUtf32 bytes
  | utf32 (some order) => .ok (decodeUtf32 order bytes)
  | utf7 => .ok (Utf7.decode none bytes)
  | escaped rich => .ok (Escaped.decode rich bytes)
  | punycode =>
      if (bytes.reverse.takeWhile (· ≠ '-'.toUInt8)).any (0x80 ≤ ·) then .error .beyondAscii
      else .ok (Punycode.read (CodePage.ascii.decode bytes)).1
  | page code => .ok (code.decode bytes)
  | eastAsian code => .ok (code.decode bytes)
  | ofBytes => .error .notText
  | ofText => .error .notBytes
  | strict => .error .notLenient

end Charset
end Text
end RouteIR
