import GridRobot.Encoding.Chinese
import GridRobot.Encoding.Codec
import GridRobot.Encoding.Iso2022
import GridRobot.Encoding.Japanese
import GridRobot.Encoding.Korean
import GridRobot.Encoding.SingleByteTables
import GridRobot.Encoding.TraditionalChinese
import GridRobot.Text.Quoted

/-! # Names of encodings

An encoding is known by its name and by its aliases. Case does not matter, and any run of
characters other than letters, digits and points counts as one underscore. -/

namespace GridRobot.Encoding

/-- An encoding with its names. One without a codec turns bytes into bytes or characters into
characters, and so is no encoding of text. -/
structure Entry where
  name : String
  aliases : List String
  codec? : Option Codec

def regular (scheme : Scheme) : Option Codec :=
  some (.scheme scheme)

def special (codec : OtherCodec) : Option Codec :=
  some (.other codec)

def entries : List Entry :=
  [
    ⟨"ascii", ["646", "ansi_x3.4_1968", "ansi_x3.4_1986", "ansi_x3_4_1968", "cp367", "csascii",
      "ibm367", "iso646_us", "iso_646.irv_1991", "iso_ir_6", "us", "us_ascii"], regular .ascii⟩,
    ⟨"base64_codec", ["base64", "base_64"], none⟩,
    ⟨"big5", ["big5_tw", "csbig5", "x_mac_trad_chinese"], regular (.multiByte .big5 {})⟩,
    ⟨"big5hkscs", ["big5_hkscs", "hkscs"], regular (.multiByte .hongKong {})⟩,
    ⟨"bz2_codec", ["bz2"], none⟩,
    ⟨"charmap", [], regular .latin1⟩,
    ⟨"cp037", ["037", "csibm037", "ebcdic_cp_ca", "ebcdic_cp_nl", "ebcdic_cp_us", "ebcdic_cp_wt",
      "ibm037", "ibm039"], regular (.singleByte .cp037)⟩,
    ⟨"cp1006", [], regular (.singleByte .cp1006)⟩,
    ⟨"cp1026", ["1026", "csibm1026", "ibm1026"], regular (.singleByte .cp1026)⟩,
    ⟨"cp1125", ["1125", "cp866u", "ibm1125", "ruscii"], regular (.singleByte .cp1125)⟩,
    ⟨"cp1140", ["1140", "ibm1140"], regular (.singleByte .cp1140)⟩,
    ⟨"cp1250", ["1250", "windows_1250"], regular (.singleByte .cp1250)⟩,
    ⟨"cp1251", ["1251", "windows_1251"], regular (.singleByte .cp1251)⟩,
    ⟨"cp1252", ["1252", "windows_1252"], regular (.singleByte .cp1252)⟩,
    ⟨"cp1253", ["1253", "windows_1253"], regular (.singleByte .cp1253)⟩,
    ⟨"cp1254", ["1254", "windows_1254"], regular (.singleByte .cp1254)⟩,
    ⟨"cp1255", ["1255", "windows_1255"], regular (.singleByte .cp1255)⟩,
    ⟨"cp1256", ["1256", "windows_1256"], regular (.singleByte .cp1256)⟩,
    ⟨"cp1257", ["1257", "windows_1257"], regular (.singleByte .cp1257)⟩,
    ⟨"cp1258", ["1258", "windows_1258"], regular (.singleByte .cp1258)⟩,
    ⟨"cp273", ["273", "csibm273", "ibm273"], regular (.singleByte .cp273)⟩,
    ⟨"cp424", ["424", "csibm424", "ebcdic_cp_he", "ibm424"], regular (.singleByte .cp424)⟩,
    ⟨"cp437", ["437", "cspc8codepage437", "ibm437"], regular (.singleByte .cp437)⟩,
    ⟨"cp500", ["500", "csibm500", "ebcdic_cp_be", "ebcdic_cp_ch", "ibm500"], regular (.singleByte .cp500)⟩,
    ⟨"cp720", [], regular (.singleByte .cp720)⟩,
    ⟨"cp737", [], regular (.singleByte .cp737)⟩,
    ⟨"cp775", ["775", "cspc775baltic", "ibm775"], regular (.singleByte .cp775)⟩,
    ⟨"cp850", ["850", "cspc850multilingual", "ibm850"], regular (.singleByte .cp850)⟩,
    ⟨"cp852", ["852", "cspcp852", "ibm852"], regular (.singleByte .cp852)⟩,
    ⟨"cp855", ["855", "csibm855", "ibm855"], regular (.singleByte .cp855)⟩,
    ⟨"cp856", [], regular (.singleByte .cp856)⟩,
    ⟨"cp857", ["857", "csibm857", "ibm857"], regular (.singleByte .cp857)⟩,
    ⟨"cp858", ["858", "csibm858", "ibm858"], regular (.singleByte .cp858)⟩,
    ⟨"cp860", ["860", "csibm860", "ibm860"], regular (.singleByte .cp860)⟩,
    ⟨"cp861", ["861", "cp_is", "csibm861", "ibm861"], regular (.singleByte .cp861)⟩,
    ⟨"cp862", ["862", "cspc862latinhebrew", "ibm862"], regular (.singleByte .cp862)⟩,
    ⟨"cp863", ["863", "csibm863", "ibm863"], regular (.singleByte .cp863)⟩,
    ⟨"cp864", ["864", "csibm864", "ibm864"], regular (.singleByte .cp864)⟩,
    ⟨"cp865", ["865", "csibm865", "ibm865"], regular (.singleByte .cp865)⟩,
    ⟨"cp866", ["866", "csibm866", "ibm866"], regular (.singleByte .cp866)⟩,
    ⟨"cp869", ["869", "cp_gr", "csibm869", "ibm869"], regular (.singleByte .cp869)⟩,
    ⟨"cp874", [], regular (.singleByte .cp874)⟩,
    ⟨"cp875", [], regular (.singleByte .cp875)⟩,
    ⟨"cp932", ["932", "ms932", "ms_kanji", "mskanji"], regular (.multiByte .windows932 {})⟩,
    ⟨"cp949", ["949", "ms949", "uhc"], regular (.multiByte .windows949 {})⟩,
    ⟨"cp950", ["950", "ms950"], regular (.multiByte .windows950 {})⟩,
    ⟨"euc_jis_2004", ["euc_jis2004", "eucjis2004", "jisx0213"], regular (.multiByte .eucJis2004 {})⟩,
    ⟨"euc_jisx0213", ["eucjisx0213"], regular (.multiByte .eucJisX0213 {})⟩,
    ⟨"euc_jp", ["eucjp", "u_jis", "ujis"], regular (.multiByte .eucJp {})⟩,
    ⟨"euc_kr", ["euckr", "korean", "ks_c_5601", "ks_c_5601_1987", "ks_x_1001", "ksc5601", "ksx1001",
      "x_mac_korean"], regular (.multiByte .eucKr {})⟩,
    ⟨"gb18030", ["gb18030_2000"], regular (.multiByte .gb18030 {})⟩,
    ⟨"gb2312", ["chinese", "csiso58gb231280", "euc_cn", "euccn", "eucgb2312_cn", "gb2312_1980",
      "gb2312_80", "iso_ir_58", "x_mac_simp_chinese"], regular (.multiByte .gb2312 {})⟩,
    ⟨"gbk", ["936", "cp936", "ms936"], regular (.multiByte .gbk {})⟩,
    ⟨"hex_codec", ["hex"], none⟩,
    ⟨"hp_roman8", ["cp1051", "csHPRoman8", "ibm1051", "r8", "roman8"], regular (.singleByte .hpRoman8)⟩,
    ⟨"hz", ["hz_gb", "hz_gb_2312", "hzgb"], regular (.multiByte .hz {})⟩,
    ⟨"idna", [], special .idna⟩,
    ⟨"iso2022_jp", ["csiso2022jp", "iso2022jp", "iso_2022_jp"], regular (.multiByte .iso2022Jp {})⟩,
    ⟨"iso2022_jp_1", ["iso2022jp_1", "iso_2022_jp_1"], regular (.multiByte .iso2022Jp1 {})⟩,
    ⟨"iso2022_jp_2", ["iso2022jp_2", "iso_2022_jp_2"], regular (.multiByte .iso2022Jp2 {})⟩,
    ⟨"iso2022_jp_2004", ["iso2022jp_2004", "iso_2022_jp_2004"], regular (.multiByte .iso2022Jp2004 {})⟩,
    ⟨"iso2022_jp_3", ["iso2022jp_3", "iso_2022_jp_3"], regular (.multiByte .iso2022Jp3 {})⟩,
    ⟨"iso2022_jp_ext", ["iso2022jp_ext", "iso_2022_jp_ext"], regular (.multiByte .iso2022JpExt {})⟩,
    ⟨"iso2022_kr", ["csiso2022kr", "iso2022kr", "iso_2022_kr"], regular (.multiByte .iso2022Kr {})⟩,
    ⟨"iso8859_10", ["csisolatin6", "iso_8859_10", "iso_8859_10_1992", "iso_ir_157", "l6", "latin6"], regular (.singleByte .iso8859_10)⟩,
    ⟨"iso8859_11", ["iso_8859_11", "iso_8859_11_2001", "thai"], regular (.singleByte .iso8859_11)⟩,
    ⟨"iso8859_13", ["iso_8859_13", "l7", "latin7"], regular (.singleByte .iso8859_13)⟩,
    ⟨"iso8859_14", ["iso_8859_14", "iso_8859_14_1998", "iso_celtic", "iso_ir_199", "l8", "latin8"], regular (.singleByte .iso8859_14)⟩,
    ⟨"iso8859_15", ["iso_8859_15", "l9", "latin9"], regular (.singleByte .iso8859_15)⟩,
    ⟨"iso8859_16", ["iso_8859_16", "iso_8859_16_2001", "iso_ir_226", "l10", "latin10"], regular (.singleByte .iso8859_16)⟩,
    ⟨"iso8859_2", ["csisolatin2", "iso_8859_2", "iso_8859_2_1987", "iso_ir_101", "l2", "latin2"], regular (.singleByte .iso8859_2)⟩,
    ⟨"iso8859_3", ["csisolatin3", "iso_8859_3", "iso_8859_3_1988", "iso_ir_109", "l3", "latin3"], regular (.singleByte .iso8859_3)⟩,
    ⟨"iso8859_4", ["csisolatin4", "iso_8859_4", "iso_8859_4_1988", "iso_ir_110", "l4", "latin4"], regular (.singleByte .iso8859_4)⟩,
    ⟨"iso8859_5", ["csisolatincyrillic", "cyrillic", "iso_8859_5", "iso_8859_5_1988", "iso_ir_144"], regular (.singleByte .iso8859_5)⟩,
    ⟨"iso8859_6", ["arabic", "asmo_708", "csisolatinarabic", "ecma_114", "iso_8859_6",
      "iso_8859_6_1987", "iso_ir_127"], regular (.singleByte .iso8859_6)⟩,
    ⟨"iso8859_7", ["csisolatingreek", "ecma_118", "elot_928", "greek", "greek8", "iso_8859_7",
      "iso_8859_7_1987", "iso_ir_126"], regular (.singleByte .iso8859_7)⟩,
    ⟨"iso8859_8", ["csisolatinhebrew", "hebrew", "iso_8859_8", "iso_8859_8_1988", "iso_ir_138"], regular (.singleByte .iso8859_8)⟩,
    ⟨"iso8859_9", ["csisolatin5", "iso_8859_9", "iso_8859_9_1989", "iso_ir_148", "l5", "latin5"], regular (.singleByte .iso8859_9)⟩,
    ⟨"johab", ["cp1361", "ms1361"], regular (.multiByte .johab {})⟩,
    ⟨"koi8_r", ["cskoi8r"], regular (.singleByte .koi8R)⟩,
    ⟨"koi8_t", [], regular (.singleByte .koi8T)⟩,
    ⟨"koi8_u", [], regular (.singleByte .koi8U)⟩,
    ⟨"kz1048", ["kz_1048", "rk1048", "strk1048_2002"], regular (.singleByte .kz1048)⟩,
    ⟨"latin_1", ["8859", "cp819", "csisolatin1", "ibm819", "iso8859", "iso8859_1", "iso_8859_1",
      "iso_8859_1_1987", "iso_ir_100", "l1", "latin", "latin1"], regular .latin1⟩,
    ⟨"mac_arabic", [], regular (.singleByte .macArabic)⟩,
    ⟨"mac_croatian", [], regular (.singleByte .macCroatian)⟩,
    ⟨"mac_cyrillic", ["maccyrillic"], regular (.singleByte .macCyrillic)⟩,
    ⟨"mac_farsi", [], regular (.singleByte .macFarsi)⟩,
    ⟨"mac_greek", ["macgreek"], regular (.singleByte .macGreek)⟩,
    ⟨"mac_iceland", ["maciceland"], regular (.singleByte .macIceland)⟩,
    ⟨"mac_latin2", ["mac_centeuro", "maccentraleurope", "maclatin2"], regular (.singleByte .macLatin2)⟩,
    ⟨"mac_roman", ["macintosh", "macroman"], regular (.singleByte .macRoman)⟩,
    ⟨"mac_romanian", [], regular (.singleByte .macRomanian)⟩,
    ⟨"mac_turkish", ["macturkish"], regular (.singleByte .macTurkish)⟩,
    ⟨"palmos", [], regular (.singleByte .palmos)⟩,
    ⟨"ptcp154", ["cp154", "csptcp154", "cyrillic_asian", "pt154"], regular (.singleByte .ptcp154)⟩,
    ⟨"punycode", [], special .punycode⟩,
    ⟨"quopri_codec", ["quopri", "quoted_printable", "quotedprintable"], none⟩,
    ⟨"raw_unicode_escape", [], special .rawUnicodeEscape⟩,
    ⟨"rot_13", ["rot13"], none⟩,
    ⟨"shift_jis", ["csshiftjis", "s_jis", "shiftjis", "sjis", "x_mac_japanese"], regular (.multiByte .shiftJis {})⟩,
    ⟨"shift_jis_2004", ["s_jis_2004", "shiftjis2004", "sjis_2004"], regular (.multiByte .shiftJis2004 {})⟩,
    ⟨"shift_jisx0213", ["s_jisx0213", "shiftjisx0213", "sjisx0213"], regular (.multiByte .shiftJisX0213 {})⟩,
    ⟨"tis_620", ["iso_ir_166", "tis620", "tis_620_0", "tis_620_2529_0", "tis_620_2529_1"], regular (.singleByte .tis_620)⟩,
    ⟨"undefined", [], regular .undefined⟩,
    ⟨"unicode_escape", [], special .unicodeEscape⟩,
    ⟨"utf_16", ["u16", "utf16"], regular (.utf16 none)⟩,
    ⟨"utf_16_be", ["unicodebigunmarked", "utf_16be"], regular (.utf16 (some .big))⟩,
    ⟨"utf_16_le", ["unicodelittleunmarked", "utf_16le"], regular (.utf16 (some .little))⟩,
    ⟨"utf_32", ["u32", "utf32"], regular (.utf32 none)⟩,
    ⟨"utf_32_be", ["utf_32be"], regular (.utf32 (some .big))⟩,
    ⟨"utf_32_le", ["utf_32le"], regular (.utf32 (some .little))⟩,
    ⟨"utf_7", ["u7", "unicode_1_1_utf_7", "utf7"], special .utf7⟩,
    ⟨"utf_8", ["cp65001", "u8", "utf", "utf8", "utf8_ucs2", "utf8_ucs4"], regular .utf8⟩,
    ⟨"utf_8_sig", [], regular .utf8Signed⟩,
    ⟨"uu_codec", ["uu"], none⟩,
    ⟨"zlib_codec", ["zip", "zlib"], none⟩]

/-- The letters, digits and points of a name in small letters, with one underscore for each run of
other characters between them. `gap` tells that such a run came before, `started` that a character
was kept. -/
def normalizedFrom (started gap : Bool) : Text → Text
  | [] => []
  | c :: name =>
    if c.isAlphanum || c = '.' then
      if started && gap then '_' :: c.toLower :: normalizedFrom true false name
      else c.toLower :: normalizedFrom true false name
    else normalizedFrom started true name

/-- The form in which names are compared. -/
def normalized (name : Text) : Text :=
  normalizedFrom false false name

/-- The encoding with this name or alias. In an alias a point counts as an underscore. -/
def find? (name : Text) : Option Entry :=
  let n := String.ofList (normalized name)
  let plain := String.ofList ((normalized name).map fun c => if c = '.' then '_' else c)
  match entries.find? (·.aliases.contains n) with
  | some e => some e
  | none =>
    match entries.find? (·.aliases.contains plain) with
    | some e => some e
    | none => entries.find? (·.name = n)

/-- Why a name was not accepted as that of an encoding. -/
inductive NameError where
  | unknown (name : Text)
  | notText (name : Text)
  | embeddedNull
  deriving DecidableEq, Repr

/-- The characters of a text that fit in so many bytes. What is left of a character that does not
fit is shown by the replacement character. -/
def cutBytes : Nat → Text → Text
  | _, [] => []
  | 0, _ => []
  | room + 1, c :: t =>
    if c.utf8Size ≤ room + 1 then c :: cutBytes (room + 1 - c.utf8Size) t else ['\uFFFD']
termination_by _ t => t.length

def NameError.message : NameError → Text
  | unknown name => "unknown encoding: ".toList ++ name
  | notText name =>
    '\x27' :: cutBytes 400 name ++
      "' is not a text encoding; use codecs.open() to handle arbitrary codecs".toList
  | embeddedNull => "embedded null character".toList

/-- The codec of any known encoding, if it is one of text. -/
def lookup (name : Text) : Except NameError (Option Codec) :=
  if '\x00' ∈ name then .error .embeddedNull
  else match find? name with
    | some e => .ok e.codec?
    | none => .error (.unknown name)

/-- The name that stands for the encoding of the surroundings, where a file is opened. -/
def localeName : Text := "locale".toList

/-- The codec of an encoding of text, for a file. -/
def lookupText (locale : Scheme) (name : Text) : Except NameError Codec :=
  if name = localeName then .ok (.scheme locale)
  else do
    match ← lookup name with
    | some codec => return codec
    | none => throw (.notText name)

end GridRobot.Encoding
