import Reindexing.Text.Charset.Chinese
import Reindexing.Text.Charset.Japanese
import Reindexing.Text.Charset.Korean
import Reindexing.Text.Charset.SingleByte
import Reindexing.Text.Search

/-!
# Character sets

Bytes are read as text in a character set that has been named. A set may have several
names, in any case; text in an unknown set, or in none, is UTF-8. A mark at the start
of the bytes tells the set better than any name and is no part of the text.
-/
namespace Reindexing.Text

inductive Charset where
  | utf8
  | utf16 (bigFirst : Bool)
  /-- Each byte is a character. -/
  | table (greatest : String)
  /-- Bytes outside of ASCII are characters for private use. -/
  | userDefined
  /-- A set that must not be read. -/
  | refused
  | chinese
  | taiwan
  | japaneseShifted
  | japaneseHigh
  | japaneseSwitched
  | korean
  deriving DecidableEq, Repr

namespace Charset

/-- The names of the sets in which each byte is a character. -/
def tableNames : List (List String × String) :=
  [(["866", "cp866", "csibm866", "ibm866"], dosCyrillic),
    (["csisolatin2", "iso-8859-2", "iso-ir-101", "iso8859-2", "iso88592", "iso_8859-2", "iso_8859-2:1987", "l2",
      "latin2"], latin2),
    (["csisolatin3", "iso-8859-3", "iso-ir-109", "iso8859-3", "iso88593", "iso_8859-3", "iso_8859-3:1988", "l3",
      "latin3"], latin3),
    (["csisolatin4", "iso-8859-4", "iso-ir-110", "iso8859-4", "iso88594", "iso_8859-4", "iso_8859-4:1988", "l4",
      "latin4"], latin4),
    (["csisolatincyrillic", "cyrillic", "iso-8859-5", "iso-ir-144", "iso8859-5", "iso88595", "iso_8859-5",
      "iso_8859-5:1988"], isoCyrillic),
    (["arabic", "asmo-708", "csiso88596e", "csiso88596i", "csisolatinarabic", "ecma-114", "iso-8859-6",
      "iso-8859-6-e", "iso-8859-6-i", "iso-ir-127", "iso8859-6", "iso88596", "iso_8859-6", "iso_8859-6:1987"],
      isoArabic),
    (["csisolatingreek", "ecma-118", "elot_928", "greek", "greek8", "iso-8859-7", "iso-ir-126", "iso8859-7",
      "iso88597", "iso_8859-7", "iso_8859-7:1987", "sun_eu_greek"], isoGreek),
    (["csiso88598e", "csisolatinhebrew", "hebrew", "iso-8859-8", "iso-8859-8-e", "iso-ir-138", "iso8859-8",
      "iso88598", "iso_8859-8", "iso_8859-8:1988", "visual", "csiso88598i", "iso-8859-8-i", "logical"], isoHebrew),
    (["csisolatin6", "iso-8859-10", "iso-ir-157", "iso8859-10", "iso885910", "l6", "latin6"], latin6),
    (["iso-8859-13", "iso8859-13", "iso885913"], latin7),
    (["iso-8859-14", "iso8859-14", "iso885914"], latin8),
    (["csisolatin9", "iso-8859-15", "iso8859-15", "iso885915", "iso_8859-15", "l9"], latin9),
    (["iso-8859-16"], latin10),
    (["cskoi8r", "koi", "koi8", "koi8-r", "koi8_r"], koiRussian),
    (["koi8-ru", "koi8-u"], koiUkrainian),
    (["csmacintosh", "mac", "macintosh", "x-mac-roman"], macRoman),
    (["dos-874", "iso-8859-11", "iso8859-11", "iso885911", "tis-620", "windows-874"], windowsThai),
    (["cp1250", "windows-1250", "x-cp1250"], windowsCentral),
    (["cp1251", "windows-1251", "x-cp1251"], windowsCyrillic),
    (["ansi_x3.4-1968", "ascii", "cp1252", "cp819", "csisolatin1", "ibm819", "iso-8859-1", "iso-ir-100",
      "iso8859-1", "iso88591", "iso_8859-1", "iso_8859-1:1987", "l1", "latin1", "us-ascii", "windows-1252",
      "x-cp1252"], windowsWestern),
    (["cp1253", "windows-1253", "x-cp1253"], windowsGreek),
    (["cp1254", "csisolatin5", "iso-8859-9", "iso-ir-148", "iso8859-9", "iso88599", "iso_8859-9",
      "iso_8859-9:1989", "l5", "latin5", "windows-1254", "x-cp1254"], windowsTurkish),
    (["cp1255", "windows-1255", "x-cp1255"], windowsHebrew),
    (["cp1256", "windows-1256", "x-cp1256"], windowsArabic),
    (["cp1257", "windows-1257", "x-cp1257"], windowsBaltic),
    (["cp1258", "windows-1258", "x-cp1258"], windowsVietnamese),
    (["x-mac-cyrillic", "x-mac-ukrainian"], macCyrillic)]

/-- The names of the other sets but UTF-8. -/
def names : List (List String × Charset) :=
  [(["chinese", "csgb2312", "csiso58gb231280", "gb2312", "gb_2312", "gb_2312-80", "gbk", "iso-ir-58", "x-gbk",
      "gb18030"], .chinese),
    (["big5", "big5-hkscs", "cn-big5", "csbig5", "x-x-big5"], .taiwan),
    (["cseucpkdfmtjapanese", "euc-jp", "x-euc-jp"], .japaneseHigh),
    (["csiso2022jp", "iso-2022-jp"], .japaneseSwitched),
    (["csshiftjis", "ms932", "ms_kanji", "shift-jis", "shift_jis", "sjis", "windows-31j", "x-sjis"],
      .japaneseShifted),
    (["cseuckr", "csksc56011987", "euc-kr", "iso-ir-149", "korean", "ks_c_5601-1987", "ks_c_5601-1989", "ksc5601",
      "ksc_5601", "windows-949"], .korean),
    (["csiso2022kr", "hz-gb-2312", "iso-2022-cn", "iso-2022-cn-ext", "iso-2022-kr", "replacement"], .refused),
    (["unicodefffe", "utf-16be"], .utf16 true),
    (["csunicode", "iso-10646-ucs-2", "ucs-2", "unicode", "unicodefeff", "utf-16", "utf-16le"], .utf16 false),
    (["x-user-defined"], .userDefined)]

/-- The set that a name stands for; blanks around it do not count. -/
def ofName (name : String) : Charset :=
  let isOutside (c : Char) : Bool := [' ', '\t', '\n', '\x0c', '\r'].contains c
  let name := (String.ofList (dropEnd isOutside (name.toList.dropWhile isOutside))).toLower
  match tableNames.find? (·.1.contains name), names.find? (·.1.contains name) with
  | some (_, greatest), _ => .table greatest
  | none, some (_, charset) => charset
  | none, none => .utf8

/-- The character of a byte in a set whose greatest bytes stand in a table. -/
def tableChar? (greatest : List Char) (b : Nat) : Option Char :=
  let first := 256 - greatest.length
  if b < first then some (Char.ofNat b) else (greatest[b - first]?).filter (· ≠ ' ')

/-- The units of two bytes each, and whether a byte is left over. -/
def units (bigFirst : Bool) : List UInt8 → List Nat × Bool
  | a :: b :: rest =>
    let unit := if bigFirst then a.toNat * 256 + b.toNat else b.toNat * 256 + a.toNat
    let (others, isOdd) := units bigFirst rest
    (unit :: others, isOdd)
  | [_] => ([], true)
  | [] => ([], false)

def isHighHalf (unit : Nat) : Bool := 0xd800 ≤ unit && unit < 0xdc00

def isLowHalf (unit : Nat) : Bool := 0xdc00 ≤ unit && unit < 0xe000

/-- What a unit gives: the character or a fault, or a half that waits for the other one. -/
def startUnit (unit : Nat) : List (Option Char) × Option Nat :=
  if isHighHalf unit then ([], some unit)
  else if isLowHalf unit then ([none], none)
  else ([some (Char.ofNat unit)], none)

/-- The characters of units, of which a half may be waiting; halves that do not belong together are faults.
A half at the end and a byte that is left over are one fault. -/
def decodeUnits (isOdd : Bool) (waiting : Option Nat) : List Nat → List (Option Char)
  | [] => if waiting.isSome || isOdd then [none] else []
  | unit :: rest =>
    match waiting, isLowHalf unit with
    | some high, true =>
      some (Char.ofNat (0x10000 + (high - 0xd800) * 0x400 + (unit - 0xdc00))) :: decodeUnits isOdd none rest
    | _, _ =>
      let (cs, next) := startUnit unit
      (if waiting.isSome then [none] else []) ++ cs ++ decodeUnits isOdd next rest

/-- The characters of bytes; `none` is a fault. -/
def decode (charset : Charset) (bytes : List UInt8) : List (Option Char) :=
  match charset with
  | .utf8 => decodeFrom none bytes
  | .utf16 bigFirst =>
    let (all, isOdd) := units bigFirst bytes
    decodeUnits isOdd none all
  | .table greatest => bytes.map fun b => tableChar? greatest.toList b.toNat
  | .userDefined => bytes.map fun b => some (Char.ofNat (if b.toNat < 0x80 then b.toNat else 0xf700 + b.toNat))
  | .refused => if bytes.isEmpty then [] else [none]
  | .chinese => decodeCodes readChinese bytes.length bytes
  | .taiwan => decodeCodes readTaiwan bytes.length bytes
  | .japaneseShifted => decodeCodes readShifted bytes.length bytes
  | .japaneseHigh => decodeCodes readHigh bytes.length bytes
  | .japaneseSwitched => decodeSwitched bytes.length .ascii false bytes
  | .korean => decodeCodes readKorean bytes.length bytes

/-- The set that a mark at the start of the bytes tells, and the bytes behind the mark. -/
def ofMark? : List UInt8 → Option (Charset × List UInt8)
  | 0xef :: 0xbb :: 0xbf :: rest => some (.utf8, rest)
  | 0xfe :: 0xff :: rest => some (.utf16 true, rest)
  | 0xff :: 0xfe :: rest => some (.utf16 false, rest)
  | _ => none

end Charset

/-- The text of bytes in a set that may be named; a replacement character stands for each fault. -/
def decodeAs (name : Option String) (bytes : List UInt8) : String :=
  let (charset, bytes) := (Charset.ofMark? bytes).getD ((name.map Charset.ofName).getD .utf8, bytes)
  String.ofList ((charset.decode bytes).map fun c => c.getD '\ufffd')

end Reindexing.Text
