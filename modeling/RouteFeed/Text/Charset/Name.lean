import RouteFeed.Text.Charset.Bytewise.CodePage
import RouteFeed.Text.Charset.Bytewise.Ebcdic
import RouteFeed.Text.Charset.Bytewise.Latin
import RouteFeed.Text.Charset.Bytewise.Mac
import RouteFeed.Text.Charset.Bytewise.National
import RouteFeed.Text.Charset.Bytewise.Windows
import RouteFeed.Text.Cut
import RouteFeed.Text.Decoder

/-! The names of the character sets. -/
namespace RouteFeed.Text

inductive Charset where
  | utf8
  | utf8Marked
  | bytewise (table : Bytewise)
  | scheme (start : Scheme)
  | unfit (failure : Failure)
  /-- What calls itself a character set but has no decoder at all. -/
  | missing (failure : Failure)
  deriving DecidableEq

namespace Charset

def decoder : Charset → Decoder
  | utf8 => .utf8 {}
  | utf8Marked => .utf8Start []
  | bytewise table => .bytewise table
  | scheme start => .buffered start []
  | unfit f | missing f => .unfit f

/-- A character set with its name and its further names, which stand in one text with blanks
between. -/
structure Entry where
  name : String
  others : String
  charset : Charset

/-- The failure of an encoding that does not replace what it cannot decode. -/
def notStrict : Failure := ⟨.assertion, ""⟩

def notText : Failure :=
  .wrongShape "descriptor 'translate' for 'str' objects doesn't apply to a 'bytes' object"

/-- Names of the encodings of all characters, of ASCII and of Latin-1. -/
def unicodeEntries : List Entry := [
  ⟨"utf_8", "u8 utf utf8 utf8_ucs2 utf8_ucs4 cp65001", .utf8⟩,
  ⟨"utf_8_sig", "", .utf8Marked⟩,
  ⟨"utf_7", "u7 utf7 unicode_1_1_utf_7", .scheme .utf7⟩,
  ⟨"utf_16", "u16 utf16", .scheme .utf16Start⟩,
  ⟨"utf_16_be", "unicodebigunmarked utf_16be", .scheme (.utf16 true)⟩,
  ⟨"utf_16_le", "unicodelittleunmarked utf_16le", .scheme (.utf16 false)⟩,
  ⟨"utf_32", "u32 utf32", .scheme .utf32Start⟩,
  ⟨"utf_32_be", "utf_32be", .scheme (.utf32 true)⟩,
  ⟨"utf_32_le", "utf_32le", .scheme (.utf32 false)⟩,
  ⟨"unicode_escape", "", .scheme (.escaped false)⟩,
  ⟨"raw_unicode_escape", "", .scheme (.escaped true)⟩,
  ⟨"ascii",
    "646 ansi_x3.4_1968 ansi_x3_4_1968 ansi_x3.4_1986 cp367 csascii ibm367" ++
      " iso646_us iso_646.irv_1991 iso_ir_6 us us_ascii",
    .bytewise .ascii⟩,
  ⟨"latin_1",
    "8859 cp819 csisolatin1 ibm819 iso8859 iso8859_1 iso_8859_1" ++
      " iso_8859_1_1987 iso_ir_100 l1 latin latin1",
    .bytewise .latin1⟩,
  ⟨"charmap", "", .bytewise .latin1⟩]

/-- Names of the character sets of East Asia. -/
def asianEntries : List Entry := [
  ⟨"euc_kr",
    "euckr korean ksc5601 ks_c_5601 ks_c_5601_1987 ksx1001 ks_x_1001" ++
      " x_mac_korean",
    .scheme (.multibyte .eucKr)⟩,
  ⟨"cp949", "949 ms949 uhc", .scheme (.multibyte .unifiedKorean)⟩,
  ⟨"johab", "cp1361 ms1361", .scheme (.multibyte .johab)⟩,
  ⟨"gb2312",
    "chinese csiso58gb231280 euc_cn euccn eucgb2312_cn gb2312_1980" ++
      " gb2312_80 iso_ir_58 x_mac_simp_chinese",
    .scheme (.multibyte .gb2312)⟩,
  ⟨"gbk", "936 cp936 ms936", .scheme (.multibyte .gbk)⟩,
  ⟨"gb18030", "gb18030_2000", .scheme (.multibyte .gb18030)⟩,
  ⟨"big5", "big5_tw csbig5 x_mac_trad_chinese", .scheme (.multibyte .big5)⟩,
  ⟨"cp950", "950 ms950", .scheme (.multibyte .cp950)⟩,
  ⟨"big5hkscs", "big5_hkscs hkscs", .scheme (.multibyte .big5Hkscs)⟩,
  ⟨"shift_jis", "csshiftjis shiftjis sjis s_jis x_mac_japanese", .scheme (.multibyte .shiftJis)⟩,
  ⟨"cp932", "932 ms932 mskanji ms_kanji", .scheme (.multibyte .cp932)⟩,
  ⟨"euc_jp", "eucjp ujis u_jis", .scheme (.multibyte .eucJp)⟩,
  ⟨"euc_jisx0213", "eucjisx0213", .scheme (.multibyte (.eucJis .first))⟩,
  ⟨"euc_jis_2004", "jisx0213 eucjis2004 euc_jis2004", .scheme (.multibyte (.eucJis .second))⟩,
  ⟨"shift_jisx0213",
    "shiftjisx0213 sjisx0213 s_jisx0213",
    .scheme (.multibyte (.shiftedJis .first))⟩,
  ⟨"shift_jis_2004",
    "shiftjis2004 sjis_2004 s_jis_2004",
    .scheme (.multibyte (.shiftedJis .second))⟩,
  ⟨"hz", "hzgb hz_gb hz_gb_2312", .scheme (.hz false)⟩,
  ⟨"iso2022_kr", "csiso2022kr iso2022kr iso_2022_kr", .scheme (.switching .iso2022Kr {})⟩,
  ⟨"iso2022_jp", "csiso2022jp iso2022jp iso_2022_jp", .scheme (.switching .iso2022Jp {})⟩,
  ⟨"iso2022_jp_1", "iso2022jp_1 iso_2022_jp_1", .scheme (.switching .iso2022Jp1 {})⟩,
  ⟨"iso2022_jp_2", "iso2022jp_2 iso_2022_jp_2", .scheme (.switching .iso2022Jp2 {})⟩,
  ⟨"iso2022_jp_3", "iso2022jp_3 iso_2022_jp_3", .scheme (.switching .iso2022Jp3 {})⟩,
  ⟨"iso2022_jp_2004", "iso_2022_jp_2004 iso2022jp_2004", .scheme (.switching .iso2022Jp2004 {})⟩,
  ⟨"iso2022_jp_ext", "iso2022jp_ext iso_2022_jp_ext", .scheme (.switching .iso2022JpExt {})⟩]

/-- Names of the character sets for Latin scripts. -/
def latinEntries : List Entry := [
  ⟨"iso8859_2",
    "csisolatin2 iso_8859_2 iso_8859_2_1987 iso_ir_101 l2 latin2",
    .bytewise .iso8859Part2⟩,
  ⟨"iso8859_3",
    "csisolatin3 iso_8859_3 iso_8859_3_1988 iso_ir_109 l3 latin3",
    .bytewise .iso8859Part3⟩,
  ⟨"iso8859_4",
    "csisolatin4 iso_8859_4 iso_8859_4_1988 iso_ir_110 l4 latin4",
    .bytewise .iso8859Part4⟩,
  ⟨"iso8859_9",
    "csisolatin5 iso_8859_9 iso_8859_9_1989 iso_ir_148 l5 latin5",
    .bytewise .iso8859Part9⟩,
  ⟨"iso8859_10",
    "csisolatin6 iso_8859_10 iso_8859_10_1992 iso_ir_157 l6 latin6",
    .bytewise .iso8859Part10⟩,
  ⟨"iso8859_13", "iso_8859_13 l7 latin7", .bytewise .iso8859Part13⟩,
  ⟨"iso8859_14",
    "iso_8859_14 iso_8859_14_1998 iso_celtic iso_ir_199 l8 latin8",
    .bytewise .iso8859Part14⟩,
  ⟨"iso8859_15", "iso_8859_15 l9 latin9", .bytewise .iso8859Part15⟩,
  ⟨"iso8859_16", "iso_8859_16 iso_8859_16_2001 iso_ir_226 l10 latin10", .bytewise .iso8859Part16⟩,
  ⟨"hp_roman8", "roman8 r8 cp1051 ibm1051", .bytewise .hpRoman8⟩]

/-- Names of the character sets for other scripts. -/
def nationalEntries : List Entry := [
  ⟨"iso8859_5",
    "csisolatincyrillic cyrillic iso_8859_5 iso_8859_5_1988 iso_ir_144",
    .bytewise .iso8859Part5⟩,
  ⟨"iso8859_6",
    "arabic asmo_708 csisolatinarabic ecma_114 iso_8859_6 iso_8859_6_1987" ++
      " iso_ir_127",
    .bytewise .iso8859Part6⟩,
  ⟨"iso8859_7",
    "csisolatingreek ecma_118 elot_928 greek greek8 iso_8859_7" ++
      " iso_8859_7_1987 iso_ir_126",
    .bytewise .iso8859Part7⟩,
  ⟨"iso8859_8",
    "csisolatinhebrew hebrew iso_8859_8 iso_8859_8_1988 iso_ir_138",
    .bytewise .iso8859Part8⟩,
  ⟨"iso8859_11", "thai iso_8859_11 iso_8859_11_2001", .bytewise .iso8859Part11⟩,
  ⟨"tis_620", "tis620 tis_620_0 tis_620_2529_0 tis_620_2529_1 iso_ir_166", .bytewise .tis620⟩,
  ⟨"koi8_r", "cskoi8r", .bytewise .koi8R⟩,
  ⟨"koi8_t", "", .bytewise .koi8T⟩,
  ⟨"koi8_u", "", .bytewise .koi8U⟩,
  ⟨"kz1048", "kz_1048 rk1048 strk1048_2002", .bytewise .kz1048⟩,
  ⟨"ptcp154", "csptcp154 pt154 cp154 cyrillic_asian", .bytewise .ptcp154⟩,
  ⟨"cp1006", "", .bytewise .cp1006⟩]

/-- Names of the code pages of graphical systems. -/
def windowsEntries : List Entry := [
  ⟨"cp1250", "1250 windows_1250", .bytewise .cp1250⟩,
  ⟨"cp1251", "1251 windows_1251", .bytewise .cp1251⟩,
  ⟨"cp1252", "1252 windows_1252", .bytewise .cp1252⟩,
  ⟨"cp1253", "1253 windows_1253", .bytewise .cp1253⟩,
  ⟨"cp1254", "1254 windows_1254", .bytewise .cp1254⟩,
  ⟨"cp1255", "1255 windows_1255", .bytewise .cp1255⟩,
  ⟨"cp1256", "1256 windows_1256", .bytewise .cp1256⟩,
  ⟨"cp1257", "1257 windows_1257", .bytewise .cp1257⟩,
  ⟨"cp1258", "1258 windows_1258", .bytewise .cp1258⟩,
  ⟨"cp874", "", .bytewise .cp874⟩,
  ⟨"palmos", "", .bytewise .palmos⟩]

def codePageEntries : List Entry := [
  ⟨"cp437", "437 cspc8codepage437 ibm437", .bytewise .cp437⟩,
  ⟨"cp720", "", .bytewise .cp720⟩,
  ⟨"cp737", "", .bytewise .cp737⟩,
  ⟨"cp775", "775 cspc775baltic ibm775", .bytewise .cp775⟩,
  ⟨"cp850", "850 cspc850multilingual ibm850", .bytewise .cp850⟩,
  ⟨"cp852", "852 cspcp852 ibm852", .bytewise .cp852⟩,
  ⟨"cp855", "855 csibm855 ibm855", .bytewise .cp855⟩,
  ⟨"cp856", "", .bytewise .cp856⟩,
  ⟨"cp857", "857 csibm857 ibm857", .bytewise .cp857⟩,
  ⟨"cp858", "858 csibm858 ibm858", .bytewise .cp858⟩,
  ⟨"cp860", "860 csibm860 ibm860", .bytewise .cp860⟩,
  ⟨"cp861", "861 cp_is csibm861 ibm861", .bytewise .cp861⟩,
  ⟨"cp862", "862 cspc862latinhebrew ibm862", .bytewise .cp862⟩,
  ⟨"cp863", "863 csibm863 ibm863", .bytewise .cp863⟩,
  ⟨"cp864", "864 csibm864 ibm864", .bytewise .cp864⟩,
  ⟨"cp865", "865 csibm865 ibm865", .bytewise .cp865⟩,
  ⟨"cp866", "866 csibm866 ibm866", .bytewise .cp866⟩,
  ⟨"cp869", "869 cp_gr csibm869 ibm869", .bytewise .cp869⟩,
  ⟨"cp1125", "1125 ibm1125 cp866u ruscii", .bytewise .cp1125⟩]

/-- Names of the character sets that do not begin with ASCII. -/
def ebcdicEntries : List Entry := [
  ⟨"cp037",
    "037 csibm037 ebcdic_cp_ca ebcdic_cp_nl ebcdic_cp_us ebcdic_cp_wt" ++
      " ibm037 ibm039",
    .bytewise .cp037⟩,
  ⟨"cp273", "273 ibm273 csibm273", .bytewise .cp273⟩,
  ⟨"cp424", "424 csibm424 ebcdic_cp_he ibm424", .bytewise .cp424⟩,
  ⟨"cp500", "500 csibm500 ebcdic_cp_be ebcdic_cp_ch ibm500", .bytewise .cp500⟩,
  ⟨"cp875", "", .bytewise .cp875⟩,
  ⟨"cp1026", "1026 csibm1026 ibm1026", .bytewise .cp1026⟩,
  ⟨"cp1140", "1140 ibm1140", .bytewise .cp1140⟩]

/-- Names of the character sets of desktop publishing. -/
def macEntries : List Entry := [
  ⟨"mac_arabic", "", .bytewise .macArabic⟩,
  ⟨"mac_croatian", "", .bytewise .macCroatian⟩,
  ⟨"mac_cyrillic", "maccyrillic", .bytewise .macCyrillic⟩,
  ⟨"mac_farsi", "", .bytewise .macFarsi⟩,
  ⟨"mac_greek", "macgreek", .bytewise .macGreek⟩,
  ⟨"mac_iceland", "maciceland", .bytewise .macIceland⟩,
  ⟨"mac_latin2", "maccentraleurope mac_centeuro maclatin2", .bytewise .macLatin2⟩,
  ⟨"mac_roman", "macintosh macroman", .bytewise .macRoman⟩,
  ⟨"mac_romanian", "", .bytewise .macRomanian⟩,
  ⟨"mac_turkish", "macturkish", .bytewise .macTurkish⟩]

/-- Names that do not stand for a character set, but pass for one. -/
def unfitEntries : List Entry := [
  ⟨"base64_codec", "base64 base_64", .unfit notStrict⟩,
  ⟨"bz2_codec", "bz2", .missing notStrict⟩,
  ⟨"hex_codec", "hex", .unfit notStrict⟩,
  ⟨"quopri_codec", "quopri quoted_printable quotedprintable", .unfit notStrict⟩,
  ⟨"uu_codec", "uu", .unfit notStrict⟩,
  ⟨"zlib_codec", "zip zlib", .missing notStrict⟩,
  ⟨"rot_13", "rot13", .unfit notText⟩,
  ⟨"idna", "", .unfit ⟨.undecodable, "Unsupported error handling replace"⟩⟩,
  ⟨"undefined", "", .unfit ⟨.undecodable, "undefined encoding"⟩⟩]

def entries : List Entry :=
  unicodeEntries ++ latinEntries ++ nationalEntries ++ windowsEntries ++ asianEntries ++
    codePageEntries ++ ebcdicEntries ++ macEntries ++ unfitEntries

/-- A name in lower case in which each run of marks between letters, digits and points is one
underscore. Marks at the ends are dropped. -/
def normalName : List Char → List Char
  | [] => []
  | c :: cs =>
    let rest := normalName cs
    if c.isAlphanum || c == '.' then
      match cs with
      | [] => [c.toLower]
      | d :: _ =>
        if d.isAlphanum || d == '.' || rest.isEmpty then c.toLower :: rest
        else c.toLower :: '_' :: rest
    else rest

def ofOther? (name : String) : Option Charset :=
  (entries.find? fun e => (splitAll ' ' e.others.toList).contains name.toList).map Entry.charset

/-- The character set with a name. In a further name points may stand for underscores. -/
def ofName? (name : String) : Option Charset :=
  let normal := normalName name.toList
  if normal.isEmpty then none
  else
    let dotless := normal.map fun c => if c == '.' then '_' else c
    ((ofOther? (String.ofList normal)).or (ofOther? (String.ofList dotless))).or
      ((entries.find? fun e => e.name.toList == normal).map Entry.charset)

end Charset
end RouteFeed.Text
