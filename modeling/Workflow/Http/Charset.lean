import Workflow.Error.Fault
import Workflow.Text.CodePage
import Workflow.Text.DoubleByte
import Workflow.Text.Utf7

/-!
# Charsets

In which encoding the body of a response is read. What is no character in it is replaced. Some charsets that
have a name are no encodings of texts; reading a body in one of them fails.
-/

namespace Workflow.Http

/-- An encoding of texts as bytes. -/
inductive Charset where
  /-- Bytes below 128. -/
  | ascii
  /-- One byte for each code. -/
  | latin
  | paged (page : Text.CodePage)
  | wide (encoding : Text.DoubleByte)
  | utf7
  /-- A mark at the beginning may be passed over. -/
  | utf8 (marked : Bool)
  /-- The order of bytes may be left to a mark at the beginning. -/
  | utf16 (lowFirst? : Option Bool)
  | utf32 (lowFirst? : Option Bool)
  /-- No encoding of texts. -/
  | refusing (fault : Fault)

namespace Charset

/-- The names of charsets, but for code pages. -/
def named : List (Charset × List String) :=
  [(.ascii,
      ["ascii", "646", "ansi_x3.4_1968", "ansi_x3.4_1986", "ansi_x3_4_1968", "cp367", "csascii", "ibm367",
        "iso646_us", "iso_646.irv_1991", "iso_ir_6", "us", "us_ascii", "iso2022_jp", "csiso2022jp",
        "iso2022jp", "iso_2022_jp", "iso2022_jp_1", "iso2022jp_1", "iso_2022_jp_1", "iso2022_jp_2",
        "iso2022jp_2", "iso_2022_jp_2", "iso2022_jp_2004", "iso2022jp_2004", "iso_2022_jp_2004",
        "iso2022_jp_3", "iso2022jp_3", "iso_2022_jp_3", "iso2022_jp_ext", "iso2022jp_ext",
        "iso_2022_jp_ext", "iso2022_kr", "csiso2022kr", "iso2022kr", "iso_2022_kr", "hz", "hz_gb",
        "hz_gb_2312", "hzgb"]),
    (.latin,
      ["latin_1", "8859", "cp819", "csisolatin1", "ibm819", "iso8859", "iso8859_1", "iso_8859_1",
        "iso_8859_1_1987", "iso_ir_100", "l1", "latin", "latin1", "charmap", "unicode_escape",
        "raw_unicode_escape"]),
    (.utf7, ["utf_7", "u7", "unicode_1_1_utf_7", "utf7"]),
    (.utf8 false, ["utf_8", "cp65001", "u8", "utf", "utf8", "utf8_ucs2", "utf8_ucs4"]),
    (.utf8 true, ["utf_8_sig"]),
    (.utf16 none, ["utf_16", "u16", "utf16"]),
    (.utf16 (some false), ["utf_16_be", "unicodebigunmarked", "utf_16be"]),
    (.utf16 (some true), ["utf_16_le", "unicodelittleunmarked", "utf_16le"]),
    (.utf32 none, ["utf_32", "u32", "utf32"]),
    (.utf32 (some false), ["utf_32_be", "utf_32be"]),
    (.utf32 (some true), ["utf_32_le", "utf_32le"]),
    (.wide (.shiftedKanji false),
      ["shift_jis", "csshiftjis", "s_jis", "shiftjis", "sjis", "x_mac_japanese"]),
    (.wide (.shiftedKanji true),
      ["cp932", "932", "ms932", "ms_kanji", "mskanji"]),
    (.wide .unshiftedKanji,
      ["euc_jp", "eucjp", "u_jis", "ujis"]),
    (.wide .hanzi,
      ["gb2312", "chinese", "csiso58gb231280", "euc_cn", "euccn", "eucgb2312_cn",
        "gb2312_1980", "gb2312_80", "iso_ir_58", "x_mac_simp_chinese"]),
    (.wide (.extendedHanzi false),
      ["gbk", "936", "cp936", "ms936"]),
    (.wide (.extendedHanzi true),
      ["gb18030", "gb18030_2000"]),
    (.wide (.traditionalHanzi false),
      ["big5", "big5_tw", "csbig5", "x_mac_trad_chinese"]),
    (.wide (.traditionalHanzi true),
      ["cp950", "950", "ms950"]),
    (.wide (.hangul false),
      ["euc_kr", "euckr", "korean", "ks_c_5601", "ks_c_5601_1987", "ks_x_1001", "ksc5601",
        "ksx1001", "x_mac_korean"]),
    (.wide (.hangul true),
      ["cp949", "949", "ms949", "uhc"]),
    (.refusing (.raised "AssertionError" []),
      ["base64_codec", "base64", "base_64", "bz2_codec", "bz2", "hex_codec", "hex", "quopri_codec",
        "quopri", "quoted_printable", "quotedprintable", "uu_codec", "uu", "zlib_codec", "zip", "zlib"]),
    (.refusing (.stated "TypeError"
        "descriptor 'translate' for 'str' objects doesn't apply to a 'bytes' object"),
      ["rot_13", "rot13"]),
    (.refusing (.stated "UnicodeError" "undefined encoding"), ["undefined"]),
    (.refusing (.stated "UnicodeError" "Unsupported error handling replace"), ["idna"])]

/-- A name in the form in which names are known: in lower case, with one underscore for each run of
characters that are neither letters, digits nor points. -/
def plainName (name : List Char) : List Char :=
  let isPart (c : Char) : Bool := c.isAlphanum || c = '.'
  let parts := (name.map fun c => if isPart c then c.toLower else ' ').splitOn ' '
  List.intercalate ['_'] (parts.filter (!·.isEmpty))

/-- The charset of a name, if it is known. -/
def ofName? (name : String) : Option Charset :=
  let plain := String.ofList (plainName name.toList)
  let known := (named.find? fun (_, names) => names.contains plain).map (·.1)
  known.or <| (Text.codePages.find? (·.names.contains plain)).map .paged

-- it takes depth to tell bytes as large as those of a mark apart when a proof goes by the cases
set_option maxRecDepth 4000 in
/-- The text of bytes in a charset. Encodings whose order is left to a mark need one, unless there are too
few bytes for it. -/
def decode (charset : Charset) (bytes : List UInt8) : Except Fault String :=
  match charset with
  | .ascii => .ok (String.ofList (bytes.map Text.plainChar))
  | .latin => .ok (String.ofList (bytes.map fun byte => Char.ofNat byte.toNat))
  | .paged page => .ok (String.ofList (bytes.map page.char))
  | .wide encoding => .ok (encoding.decodeLossy bytes)
  | .utf7 => .ok (Text.decodeUtf7 bytes)
  | .utf8 false => .ok (Text.decodeUtf8Lossy bytes)
  | .utf8 true =>
    match bytes with
    | 0xef :: 0xbb :: 0xbf :: rest => .ok (Text.decodeUtf8Lossy rest)
    | _ => .ok (Text.decodeUtf8Lossy bytes)
  | .utf16 (some lowFirst) => .ok (Text.decodeUtf16Lossy lowFirst bytes)
  | .utf32 (some lowFirst) => .ok (Text.decodeUtf32Lossy lowFirst bytes)
  | .utf16 none =>
    match bytes with
    | 0xff :: 0xfe :: rest => .ok (Text.decodeUtf16Lossy true rest)
    | 0xfe :: 0xff :: rest => .ok (Text.decodeUtf16Lossy false rest)
    | [_] => .ok "\ufffd"
    | _ => .error (.stated "UnicodeError" "UTF-16 stream does not start with BOM")
  | .utf32 none =>
    match bytes with
    | 0xff :: 0xfe :: 0x00 :: 0x00 :: rest => .ok (Text.decodeUtf32Lossy true rest)
    | 0x00 :: 0x00 :: 0xfe :: 0xff :: rest => .ok (Text.decodeUtf32Lossy false rest)
    | _ :: _ :: _ :: _ :: _ => .error (.stated "UnicodeError" "UTF-32 stream does not start with BOM")
    | _ => .ok "\ufffd"
  | .refusing fault => .error fault

end Charset

end Workflow.Http
