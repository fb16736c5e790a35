-- Names of character sets, as a content type gives them.
import CorpusSearch.Charset.Decode
import CorpusSearch.Charset.Table.Dos
import CorpusSearch.Charset.Table.Macintosh
import CorpusSearch.Charset.Table.Mainframe
import CorpusSearch.Charset.Table.National
import CorpusSearch.Charset.Table.Windows

namespace CorpusSearch.Charset

/-- A character set with its names: its own one, and others. -/
structure Known where
  name : String
  others : List String
  charset : Charset

/-- Sets for texts in general. -/
def general : List Known :=
  [⟨"ascii", ["646", "ansi_x3.4_1968", "ansi_x3.4_1986", "ansi_x3_4_1968", "cp367", "csascii",
      "ibm367", "iso646_us", "iso_646.irv_1991", "iso_ir_6", "us", "us_ascii"], .ascii⟩,
    ⟨"latin_1", ["8859", "cp819", "csisolatin1", "ibm819", "iso8859", "iso8859_1", "iso_8859_1",
      "iso_8859_1_1987", "iso_ir_100", "l1", "latin", "latin1"], .latin1⟩,
    ⟨"charmap", [], .latin1⟩,
    ⟨"utf_7", ["u7", "unicode_1_1_utf_7", "utf7"], .utf7⟩,
    ⟨"utf_8", ["cp65001", "u8", "utf", "utf8", "utf8_ucs2", "utf8_ucs4"], .utf8⟩,
    ⟨"utf_8_sig", [], .utf8Marked⟩,
    ⟨"utf_16", ["u16", "utf16"], .utf16 .marked⟩,
    ⟨"utf_16_le", ["unicodelittleunmarked", "utf_16le"], .utf16 .little⟩,
    ⟨"utf_16_be", ["unicodebigunmarked", "utf_16be"], .utf16 .big⟩,
    ⟨"utf_32", ["u32", "utf32"], .utf32 .marked⟩,
    ⟨"utf_32_le", ["utf_32le"], .utf32 .little⟩,
    ⟨"utf_32_be", ["utf_32be"], .utf32 .big⟩]

/-- Sets of one byte a character. -/
def singleByte : List Known :=
  [⟨"cp1250", ["1250", "windows_1250"], .table Windows.windows1250⟩,
    ⟨"cp1251", ["1251", "windows_1251"], .table Windows.windows1251⟩,
    ⟨"cp1252", ["1252", "windows_1252"], .table Windows.windows1252⟩,
    ⟨"cp1253", ["1253", "windows_1253"], .table Windows.windows1253⟩,
    ⟨"cp1254", ["1254", "windows_1254"], .table Windows.windows1254⟩,
    ⟨"cp1255", ["1255", "windows_1255"], .table Windows.windows1255⟩,
    ⟨"cp1256", ["1256", "windows_1256"], .table Windows.windows1256⟩,
    ⟨"cp1257", ["1257", "windows_1257"], .table Windows.windows1257⟩,
    ⟨"cp1258", ["1258", "windows_1258"], .table Windows.windows1258⟩,
    ⟨"cp874", [], .table Windows.windows874⟩,
    ⟨"iso8859_2", ["csisolatin2", "iso_8859_2", "iso_8859_2_1987", "iso_ir_101", "l2", "latin2"],
      .table Iso8859.part2⟩,
    ⟨"iso8859_3", ["csisolatin3", "iso_8859_3", "iso_8859_3_1988", "iso_ir_109", "l3", "latin3"],
      .table Iso8859.part3⟩,
    ⟨"iso8859_4", ["csisolatin4", "iso_8859_4", "iso_8859_4_1988", "iso_ir_110", "l4", "latin4"],
      .table Iso8859.part4⟩,
    ⟨"iso8859_5", ["csisolatincyrillic", "cyrillic", "iso_8859_5", "iso_8859_5_1988",
      "iso_ir_144"], .table Iso8859.part5⟩,
    ⟨"iso8859_6", ["arabic", "asmo_708", "csisolatinarabic", "ecma_114", "iso_8859_6",
      "iso_8859_6_1987", "iso_ir_127"], .table Iso8859.part6⟩,
    ⟨"iso8859_7", ["csisolatingreek", "ecma_118", "elot_928", "greek", "greek8", "iso_8859_7",
      "iso_8859_7_1987", "iso_ir_126"], .table Iso8859.part7⟩,
    ⟨"iso8859_8", ["csisolatinhebrew", "hebrew", "iso_8859_8", "iso_8859_8_1988", "iso_ir_138"],
      .table Iso8859.part8⟩,
    ⟨"iso8859_9", ["csisolatin5", "iso_8859_9", "iso_8859_9_1989", "iso_ir_148", "l5", "latin5"],
      .table Iso8859.part9⟩,
    ⟨"iso8859_10", ["csisolatin6", "iso_8859_10", "iso_8859_10_1992", "iso_ir_157", "l6",
      "latin6"], .table Iso8859.part10⟩,
    ⟨"iso8859_11", ["iso_8859_11", "iso_8859_11_2001", "thai"], .table Iso8859.part11⟩,
    ⟨"iso8859_13", ["iso_8859_13", "l7", "latin7"], .table Iso8859.part13⟩,
    ⟨"iso8859_14", ["iso_8859_14", "iso_8859_14_1998", "iso_celtic", "iso_ir_199", "l8",
      "latin8"], .table Iso8859.part14⟩,
    ⟨"iso8859_15", ["iso_8859_15", "l9", "latin9"], .table Iso8859.part15⟩,
    ⟨"iso8859_16", ["iso_8859_16", "iso_8859_16_2001", "iso_ir_226", "l10", "latin10"], .table
      Iso8859.part16⟩,
    ⟨"cp437", ["437", "cspc8codepage437", "ibm437"], .table Dos.page437⟩,
    ⟨"cp720", [], .table Dos.page720⟩,
    ⟨"cp737", [], .table Dos.page737⟩,
    ⟨"cp775", ["775", "cspc775baltic", "ibm775"], .table Dos.page775⟩,
    ⟨"cp850", ["850", "cspc850multilingual", "ibm850"], .table Dos.page850⟩,
    ⟨"cp852", ["852", "cspcp852", "ibm852"], .table Dos.page852⟩,
    ⟨"cp855", ["855", "csibm855", "ibm855"], .table Dos.page855⟩,
    ⟨"cp856", [], .table Dos.page856⟩,
    ⟨"cp857", ["857", "csibm857", "ibm857"], .table Dos.page857⟩,
    ⟨"cp858", ["858", "csibm858", "ibm858"], .table Dos.page858⟩,
    ⟨"cp860", ["860", "csibm860", "ibm860"], .table Dos.page860⟩,
    ⟨"cp861", ["861", "cp_is", "csibm861", "ibm861"], .table Dos.page861⟩,
    ⟨"cp862", ["862", "cspc862latinhebrew", "ibm862"], .table Dos.page862⟩,
    ⟨"cp863", ["863", "csibm863", "ibm863"], .table Dos.page863⟩,
    ⟨"cp864", ["864", "csibm864", "ibm864"], .table Dos.page864⟩,
    ⟨"cp865", ["865", "csibm865", "ibm865"], .table Dos.page865⟩,
    ⟨"cp866", ["866", "csibm866", "ibm866"], .table Dos.page866⟩,
    ⟨"cp869", ["869", "cp_gr", "csibm869", "ibm869"], .table Dos.page869⟩,
    ⟨"cp1006", [], .table Dos.page1006⟩,
    ⟨"cp1125", ["1125", "cp866u", "ibm1125", "ruscii"], .table Dos.page1125⟩,
    ⟨"cp037", ["037", "csibm037", "ebcdic_cp_ca", "ebcdic_cp_nl", "ebcdic_cp_us", "ebcdic_cp_wt",
      "ibm037", "ibm039"], .table Mainframe.page037⟩,
    ⟨"cp273", ["273", "csibm273", "ibm273"], .table Mainframe.page273⟩,
    ⟨"cp424", ["424", "csibm424", "ebcdic_cp_he", "ibm424"], .table Mainframe.page424⟩,
    ⟨"cp500", ["500", "csibm500", "ebcdic_cp_be", "ebcdic_cp_ch", "ibm500"], .table
      Mainframe.page500⟩,
    ⟨"cp875", [], .table Mainframe.page875⟩,
    ⟨"cp1026", ["1026", "csibm1026", "ibm1026"], .table Mainframe.page1026⟩,
    ⟨"cp1140", ["1140", "ibm1140"], .table Mainframe.page1140⟩,
    ⟨"mac_roman", ["macintosh", "macroman"], .table Macintosh.roman⟩,
    ⟨"mac_arabic", [], .table Macintosh.arabic⟩,
    ⟨"mac_croatian", [], .table Macintosh.croatian⟩,
    ⟨"mac_cyrillic", ["maccyrillic"], .table Macintosh.cyrillic⟩,
    ⟨"mac_farsi", [], .table Macintosh.farsi⟩,
    ⟨"mac_greek", ["macgreek"], .table Macintosh.greek⟩,
    ⟨"mac_iceland", ["maciceland"], .table Macintosh.iceland⟩,
    ⟨"mac_latin2", ["mac_centeuro", "maccentraleurope", "maclatin2"], .table Macintosh.latin2⟩,
    ⟨"mac_romanian", [], .table Macintosh.romanian⟩,
    ⟨"mac_turkish", ["macturkish"], .table Macintosh.turkish⟩,
    ⟨"koi8_r", ["cskoi8r"], .table National.koi8R⟩,
    ⟨"koi8_t", [], .table National.koi8T⟩,
    ⟨"koi8_u", [], .table National.koi8U⟩,
    ⟨"kz1048", ["kz_1048", "rk1048", "strk1048_2002"], .table National.kz1048⟩,
    ⟨"ptcp154", ["cp154", "csptcp154", "cyrillic_asian", "pt154"], .table National.ptcp154⟩,
    ⟨"tis_620", ["iso_ir_166", "tis620", "tis_620_0", "tis_620_2529_0", "tis_620_2529_1"], .table
      National.tis620⟩,
    ⟨"hp_roman8", ["cp1051", "ibm1051", "r8", "roman8"], .table National.hpRoman8⟩,
    ⟨"palmos", [], .table National.palmOs⟩]

/-- Sets of East Asia. -/
def eastAsian : List Known :=
  [⟨"gb2312", ["chinese", "csiso58gb231280", "euc_cn", "euccn", "eucgb2312_cn", "gb2312_1980",
      "gb2312_80", "iso_ir_58", "x_mac_simp_chinese"], .chinese .gb2312⟩,
    ⟨"gbk", ["936", "cp936", "ms936"], .chinese .gbk⟩,
    ⟨"gb18030", ["gb18030_2000"], .chinese .gb18030⟩,
    ⟨"hz", ["hz_gb", "hz_gb_2312", "hzgb"], .chinese .hz⟩,
    ⟨"big5", ["big5_tw", "csbig5", "x_mac_trad_chinese"], .chinese .big5⟩,
    ⟨"cp950", ["950", "ms950"], .chinese .page950⟩,
    ⟨"big5hkscs", ["big5_hkscs", "hkscs"], .chinese .hongKong⟩,
    ⟨"shift_jis", ["csshiftjis", "s_jis", "shiftjis", "sjis", "x_mac_japanese"], .japanese
      .shifted⟩,
    ⟨"cp932", ["932", "ms932", "ms_kanji", "mskanji"], .japanese .windows932⟩,
    ⟨"shift_jis_2004", ["s_jis_2004", "shiftjis2004", "sjis_2004"], .japanese (.shiftedJisx0213
      .second)⟩,
    ⟨"shift_jisx0213", ["s_jisx0213", "shiftjisx0213", "sjisx0213"], .japanese (.shiftedJisx0213
      .first)⟩,
    ⟨"euc_jp", ["eucjp", "u_jis", "ujis"], .japanese .extended⟩,
    ⟨"euc_jis_2004", ["euc_jis2004", "eucjis2004", "jisx0213"], .japanese (.extendedJisx0213
      .second)⟩,
    ⟨"euc_jisx0213", ["eucjisx0213"], .japanese (.extendedJisx0213 .first)⟩,
    ⟨"euc_kr", ["euckr", "korean", "ks_c_5601", "ks_c_5601_1987", "ks_x_1001", "ksc5601",
      "ksx1001", "x_mac_korean"], .korean .ksx1001⟩,
    ⟨"cp949", ["949", "ms949", "uhc"], .korean .unified⟩,
    ⟨"johab", ["cp1361", "ms1361"], .korean .johab⟩,
    ⟨"iso2022_jp", ["csiso2022jp", "iso2022jp", "iso_2022_jp"], .escaped Escaped.jp⟩,
    ⟨"iso2022_jp_1", ["iso2022jp_1", "iso_2022_jp_1"], .escaped Escaped.jp1⟩,
    ⟨"iso2022_jp_2", ["iso2022jp_2", "iso_2022_jp_2"], .escaped Escaped.jp2⟩,
    ⟨"iso2022_jp_3", ["iso2022jp_3", "iso_2022_jp_3"], .escaped Escaped.jp3⟩,
    ⟨"iso2022_jp_2004", ["iso2022jp_2004", "iso_2022_jp_2004"], .escaped Escaped.jp2004⟩,
    ⟨"iso2022_jp_ext", ["iso2022jp_ext", "iso_2022_jp_ext"], .escaped Escaped.jpKana⟩,
    ⟨"iso2022_kr", ["csiso2022kr", "iso2022kr", "iso_2022_kr"], .escaped Escaped.kr⟩]

/-- Sets for special ends. -/
def special : List Known :=
  [⟨"unicode_escape", [], .backslash⟩,
    ⟨"raw_unicode_escape", [], .rawBackslash⟩,
    ⟨"punycode", [], .punycode⟩,
    ⟨"idna", [], .domain⟩,
    ⟨"undefined", [], .undefined⟩]

def known : List Known := general ++ singleByte ++ eastAsian ++ special

/-- A name in small letters, with one underscore between its letters, digits and points; `gap` says
that something else stood before the rest, and `started` that a letter did. -/
def plainNameFrom (started gap : Bool) : Text → Text
  | [] => []
  | c :: rest =>
    if c.isAlphanum || c == '.' then
      (if gap && started then ['_'] else []) ++ c.toLower :: plainNameFrom true false rest
    else plainNameFrom started true rest

/-- The known set that has a plain name among the others. -/
def ofOther? (name : Text) : Option Charset :=
  (known.find? fun entry => entry.others.any fun other => other.toList = name).map (·.charset)

/-- The known set whose own name is a plain name. -/
def ofOwn? (name : Text) : Option Charset :=
  (known.find? fun entry => entry.name.toList = name).map (·.charset)

/-- The character set of a name. A point may stand for an underscore in the other names of a set,
but not in its own one. -/
def ofName? (name : Text) : Option Charset :=
  let name := plainNameFrom false false name
  ofOther? name <|> ofOther? (name.map fun c => if c = '.' then '_' else c) <|> ofOwn? name

/-- The text of bytes in the set of a name, in UTF-8 when there is no such set. -/
def decodeNamed (name : Text) (bytes : List UInt8) : Except Fault Text :=
  if bytes.isEmpty then .ok []
  else if name.contains '\x00' then .error .zeroInName
  else ((ofName? name).getD .utf8).decode bytes

end CorpusSearch.Charset
