import ServiceManifest.Text.Charset.Page
import ServiceManifest.Text.Encoding.Chinese
import ServiceManifest.Text.Encoding.Korean
import ServiceManifest.Text.Encoding.Switching
import ServiceManifest.Text.Encoding.Utf7
import ServiceManifest.Text.Escape
import ServiceManifest.Text.Utf8

/-!
# Encodings by name

An encoding has a proper name and perhaps others. Case does not matter in a name, nor which marks
stand between its words, except for full stops: those matter in a proper name.
-/

namespace ServiceManifest.Text.Escaped

/-!
## Encodings with escapes

Octets stand for the first code points, and escapes like those of text literals for any others.
-/

/-- The characters that octets stand for before escapes are read. -/
def latinChars (octets : List UInt8) : List Char := octets.map fun b => Char.ofNat b.toNat

/-- Octets with all escapes of text literals. -/
def full : Decoder := fun octets => (textCodes false (latinChars octets)).toOption

/-- Octets in which only code points in hexadecimal digits are escaped. -/
def codesOnly : Decoder := fun octets => codesWithEscapedCodes (latinChars octets)

end ServiceManifest.Text.Escaped

namespace ServiceManifest.Text.Encoding

/-!
## The table of names
-/

/-- A name in small letters with one low line for all that stands between its words, and none at its
ends. -/
def normalName (name : List Char) : String :=
  let isPart (c : Char) : Bool := c.isAlphanum || c = '.'
  let parts := (name.splitBy fun a b => isPart a = isPart b).filter fun part => part.all isPart
  "_".intercalate (parts.map fun part => String.ofList (part.map Char.toLower))

/-- ASCII. -/
def ascii : Decoder := fun octets =>
  if octets.all (· < 0x80) then some (octets.map (·.toNat)) else none

/-- Latin 1. -/
def latin1 : Decoder := fun octets => some (octets.map (·.toNat))

/-- UTF-8. -/
def utf8 : Decoder := fun octets =>
  match ofUtf8 ⟨octets.toArray⟩ with
  | .ok text => some (text.toList.map Char.toNat)
  | .error _ => none

/-- The encoding of domain names as far as it agrees with ASCII: no label is encoded. -/
def domainNames : Decoder := fun octets =>
  let labels := octets.splitOn 0x2E
  if labels.any ([0x78, 0x6E, 0x2D, 0x2D].isPrefixOf ·) then none else ascii octets

/-- A code page. -/
def page (runs : List CodeRun) : Decoder := fun octets =>
  octets.mapM fun b => codePointOf? runs b.toNat

/-- The encodings that are no code pages and do not switch, with their names, the proper one
first. -/
def encodings : List (List String × Decoder) :=
  [(["ascii", "us_ascii", "646", "ansi_x3.4_1968", "ansi_x3_4_1968", "ansi_x3.4_1986", "cp367",
      "csascii", "ibm367", "iso646_us", "iso_646.irv_1991", "iso_ir_6", "us"], ascii),
    (["latin_1", "8859", "cp819", "csisolatin1", "ibm819", "iso8859", "iso8859_1", "iso_8859_1",
      "iso_8859_1_1987", "iso_ir_100", "l1", "latin", "latin1"], latin1),
    (["charmap"], latin1),
    (["utf_8", "u8", "utf", "utf8", "utf8_ucs2", "utf8_ucs4", "cp65001"], utf8),
    (["utf_8_sig"], utf8),
    (["utf_7", "u7", "utf7", "unicode_1_1_utf_7"], Utf7.decoder),
    (["unicode_escape"], Escaped.full),
    (["raw_unicode_escape"], Escaped.codesOnly),
    (["idna"], domainNames),
    (["big5", "big5_tw", "csbig5", "x_mac_trad_chinese"], Chinese.big5Reader.decoder),
    (["big5hkscs", "big5_hkscs", "hkscs"], Chinese.big5Hkscs.decoder),
    (["cp950", "950", "ms950"], Chinese.codePage950.decoder),
    (["gb2312", "chinese", "csiso58gb231280", "euc_cn", "euccn", "eucgb2312_cn", "gb2312_1980",
      "gb2312_80", "iso_ir_58", "x_mac_simp_chinese"], Chinese.gb2312Reader.decoder),
    (["gbk", "936", "cp936", "ms936"], Chinese.gbk.decoder),
    (["gb18030", "gb18030_2000"], Chinese.gb18030.decoder),
    (["hz", "hzgb", "hz_gb", "hz_gb_2312"], Switching.hz),
    (["cp932", "932", "ms932", "mskanji", "ms_kanji"], Japanese.codePage932.decoder),
    (["shift_jis", "csshiftjis", "shiftjis", "sjis", "s_jis", "x_mac_japanese"],
      Japanese.shiftJis.decoder),
    (["shift_jis_2004", "shiftjis2004", "sjis_2004", "s_jis_2004"],
      (Japanese.laterShiftJis .of2004).decoder),
    (["shift_jisx0213", "shiftjisx0213", "sjisx0213", "s_jisx0213"],
      (Japanese.laterShiftJis .of2000).decoder),
    (["euc_jp", "eucjp", "ujis", "u_jis"], Japanese.eucJp.decoder),
    (["euc_jis_2004", "jisx0213", "eucjis2004", "euc_jis2004"],
      (Japanese.laterEucJp .of2004).decoder),
    (["euc_jisx0213", "eucjisx0213"], (Japanese.laterEucJp .of2000).decoder),
    (["euc_kr", "euckr", "korean", "ksc5601", "ks_c_5601", "ks_c_5601_1987", "ksx1001", "ks_x_1001",
      "x_mac_korean"], Korean.eucKr.decoder),
    (["cp949", "949", "ms949", "uhc"], Korean.codePage949.decoder),
    (["johab", "cp1361", "ms1361"], Korean.johab.decoder)]

/-- The names of a variant of ISO 2022 by their ending, the proper one first. -/
def switchingNames (ending : String) : List String :=
  ["iso2022_" ++ ending, "iso2022" ++ ending, "iso_2022_" ++ ending] ++
    if ending = "jp" || ending = "kr" then ["csiso2022" ++ ending] else []

/-- The decoder of a name. `choose` says which of the names of an encoding count. -/
def listed? (choose : List String → List String) (name : String) : Option Decoder :=
  let entry := encodings.find? fun entry => (choose entry.1).contains name
  let page? := codePages.find? fun entry => (choose entry.1).contains name
  let variant := Switching.variants.find? fun entry =>
    (choose (switchingNames entry.1)).contains name
  ((entry.map (·.2)).or (page?.map fun entry => page (CodeRun.ofText entry.2))).or
    (variant.map (·.2.decoder))

/-- The decoder of a name. A name with full stops that is not known may be another name than the
proper one with low lines for them. -/
def named? (name : List Char) : Option Decoder :=
  let normal := normalName name
  (listed? id normal).or
    (listed? (·.drop 1) (String.ofList (normal.toList.map fun c => if c = '.' then '_' else c)))

end ServiceManifest.Text.Encoding
