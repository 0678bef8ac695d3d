import SchemaMocks.Pattern.Property

set_option autoImplicit false
set_option relaxedAutoImplicit false

/-!
A small table of named properties of characters. It has all names of each property, and one range of
characters that stands for all that have it.
-/

namespace SchemaMocks.Pattern

def booleanProperties : List (List String × Nat × Nat) := [
  (["alphabetic", "alpha"], 0x61, 0x7A),
  (["asciihexdigit", "ahex"], 0x30, 0x39),
  (["bidicontrol", "bidic"], 0x202A, 0x202E),
  (["bidimirrored", "bidim"], 0x28, 0x29),
  (["caseignorable", "ci"], 0x300, 0x36F),
  (["cased"], 0x61, 0x7A),
  (["changeswhencasefolded", "cwcf"], 0x41, 0x5A),
  (["changeswhencasemapped", "cwcm"], 0x41, 0x5A),
  (["changeswhenlowercased", "cwl"], 0x41, 0x5A),
  (["changeswhentitlecased", "cwt"], 0x61, 0x7A),
  (["changeswhenuppercased", "cwu"], 0x61, 0x7A),
  (["dash"], 0x2010, 0x2015),
  (["defaultignorablecodepoint", "di"], 0x200B, 0x200F),
  (["deprecated", "dep"], 0x206A, 0x206F),
  (["diacritic", "dia"], 0x300, 0x34E),
  (["emoji"], 0x1F600, 0x1F64F),
  (["emojicomponent", "ecomp"], 0x1F3FB, 0x1F3FF),
  (["emojimodifier", "emod"], 0x1F3FB, 0x1F3FF),
  (["emojimodifierbase", "ebase"], 0x1F44A, 0x1F450),
  (["emojipresentation", "epres"], 0x1F600, 0x1F64F),
  (["extendedpictographic", "extpict"], 0x1F600, 0x1F64F),
  (["extender", "ext"], 0x2D0, 0x2D1),
  (["graphemebase", "grbase"], 0x21, 0x7E),
  (["graphemeextend", "grext"], 0x300, 0x36F),
  (["graphemelink", "grlink"], 0x94D, 0x94D),
  (["hexdigit", "hex"], 0x30, 0x39),
  (["hyphen"], 0x2010, 0x2011),
  (["idsbinaryoperator", "idsb"], 0x2FF4, 0x2FFB),
  (["idstrinaryoperator", "idst"], 0x2FF2, 0x2FF3),
  (["idcontinue", "idc"], 0x61, 0x7A),
  (["idstart", "ids"], 0x61, 0x7A),
  (["ideographic", "ideo"], 0x4E00, 0x9FFF),
  (["joincontrol", "joinc"], 0x200C, 0x200D),
  (["logicalorderexception", "loe"], 0xE40, 0xE44),
  (["lowercase", "lower"], 0x61, 0x7A),
  (["math"], 0x3C, 0x3E),
  (["noncharactercodepoint", "nchar"], 0xFDD0, 0xFDEF),
  (["patternsyntax", "patsyn"], 0x21, 0x2F),
  (["patternwhitespace", "patws"], 0x9, 0xD),
  (["prependedconcatenationmark", "pcm"], 0x600, 0x605),
  (["quotationmark", "qmark"], 0x2018, 0x201F),
  (["radical"], 0x2E9B, 0x2EF3),
  (["regionalindicator", "ri"], 0x1F1E6, 0x1F1FF),
  (["sentenceterminal", "sterm"], 0x21, 0x21),
  (["softdotted", "sd"], 0x69, 0x6A),
  (["terminalpunctuation", "term"], 0x3A, 0x3B),
  (["unifiedideograph", "uideo"], 0x4E00, 0x9FFF),
  (["uppercase", "upper"], 0x41, 0x5A),
  (["variationselector", "vs"], 0xFE00, 0xFE0F),
  (["whitespace", "wspace", "space"], 0x2000, 0x200A),
  (["xidcontinue", "xidc"], 0x61, 0x7A),
  (["xidstart", "xids"], 0x61, 0x7A)]

def categoryProperties : List (List String × Nat × Nat) := [
  (["lu", "uppercaseletter"], 0x41, 0x5A),
  (["ll", "lowercaseletter"], 0x61, 0x7A),
  (["lt", "titlecaseletter"], 0x1F88, 0x1F8F),
  (["lm", "modifierletter"], 0x1D2C, 0x1D6A),
  (["lo", "otherletter"], 0x671, 0x6D3),
  (["mn", "nonspacingmark"], 0x300, 0x36F),
  (["mc", "spacingmark"], 0xCC0, 0xCC4),
  (["me", "enclosingmark"], 0x20DD, 0x20E0),
  (["nd", "decimalnumber", "digit"], 0x30, 0x39),
  (["nl", "letternumber"], 0x12400, 0x1246E),
  (["no", "othernumber"], 0x2460, 0x249B),
  (["pc", "connectorpunctuation"], 0xFE4D, 0xFE4F),
  (["pd", "dashpunctuation"], 0x2010, 0x2015),
  (["ps", "openpunctuation"], 0x28, 0x28),
  (["pe", "closepunctuation"], 0x29, 0x29),
  (["pi", "initialpunctuation"], 0x201B, 0x201C),
  (["pf", "finalpunctuation"], 0xBB, 0xBB),
  (["po", "otherpunctuation"], 0x21, 0x23),
  (["sm", "mathsymbol"], 0x3C, 0x3E),
  (["sc", "currencysymbol"], 0x20A0, 0x20C0),
  (["sk", "modifiersymbol"], 0xA700, 0xA716),
  (["so", "othersymbol"], 0x19DE, 0x19FF),
  (["zs", "spaceseparator"], 0x2000, 0x200A),
  (["zl", "lineseparator"], 0x2028, 0x2028),
  (["zp", "paragraphseparator"], 0x2029, 0x2029),
  (["cc", "control", "cntrl"], 0x7F, 0x9F),
  (["cf", "format"], 0xE0020, 0xE007F),
  (["co", "privateuse"], 0xF0000, 0xFFFFD),
  (["cn", "unassigned"], 0xFDD0, 0xFDEF),
  (["l", "letter"], 0x61, 0x7A),
  (["lc", "casedletter"], 0x41, 0x5A),
  (["m", "mark", "combiningmark"], 0x300, 0x36F),
  (["n", "number"], 0x30, 0x39),
  (["p", "punctuation", "punct"], 0x21, 0x23),
  (["s", "symbol"], 0x3C, 0x3E),
  (["z", "separator"], 0x2000, 0x200A),
  (["c", "other"], 0x1, 0x1F)]

def scriptProperties : List (List String × Nat × Nat) := [
  (["adlam", "adlm"], 0x1E900, 0x1E94B),
  (["ahom"], 0x11700, 0x1171A),
  (["anatolianhieroglyphs", "hluw"], 0x14400, 0x14646),
  (["arabic", "arab"], 0xFBD3, 0xFD3D),
  (["armenian", "armn"], 0x559, 0x58A),
  (["avestan", "avst"], 0x10B00, 0x10B35),
  (["balinese", "bali"], 0x1B00, 0x1B4C),
  (["bamum", "bamu"], 0x16800, 0x16A38),
  (["bassavah", "bass"], 0x16AD0, 0x16AED),
  (["batak", "batk"], 0x1BC0, 0x1BF3),
  (["bengali", "beng"], 0x9E6, 0x9FE),
  (["bhaiksuki", "bhks"], 0x11C0A, 0x11C36),
  (["bopomofo", "bopo"], 0x3105, 0x312F),
  (["brahmi", "brah"], 0x11000, 0x1104D),
  (["braille", "brai"], 0x2800, 0x28FF),
  (["buginese", "bugi"], 0x1A00, 0x1A1B),
  (["buhid", "buhd"], 0x1740, 0x1753),
  (["canadianaboriginal", "cans"], 0x1400, 0x167F),
  (["carian", "cari"], 0x102A0, 0x102D0),
  (["caucasianalbanian", "aghb"], 0x10530, 0x10563),
  (["chakma", "cakm"], 0x11100, 0x11134),
  (["cham"], 0xAA00, 0xAA36),
  (["cherokee", "cher"], 0x13A0, 0x13F5),
  (["chorasmian", "chrs"], 0x10FB0, 0x10FCB),
  (["common", "zyyy"], 0x21, 0x40),
  (["coptic", "copt", "qaac"], 0x2C80, 0x2CF3),
  (["cuneiform", "xsux"], 0x12000, 0x12399),
  (["cypriot", "cprt"], 0x1080A, 0x10835),
  (["cyprominoan", "cpmn"], 0x12F90, 0x12FF2),
  (["cyrillic", "cyrl"], 0x410, 0x44F),
  (["deseret", "dsrt"], 0x10400, 0x1044F),
  (["devanagari", "deva"], 0x900, 0x97F),
  (["divesakuru", "diak"], 0x11918, 0x11935),
  (["dogra", "dogr"], 0x11800, 0x1183B),
  (["duployan", "dupl"], 0x1BC00, 0x1BC6A),
  (["egyptianhieroglyphs", "egyp"], 0x13000, 0x1342E),
  (["elbasan", "elba"], 0x10500, 0x10527),
  (["elymaic", "elym"], 0x10FE0, 0x10FF6),
  (["ethiopic", "ethi"], 0x1200, 0x1248),
  (["garay", "gara"], 0x10D4A, 0x10D65),
  (["georgian", "geor"], 0x10D0, 0x10FB),
  (["glagolitic", "glag"], 0x2C00, 0x2C5F),
  (["gothic", "goth"], 0x10330, 0x1034A),
  (["grantha", "gran"], 0x11313, 0x11328),
  (["greek", "grek"], 0x391, 0x3A1),
  (["gujarati", "gujr"], 0xA93, 0xAA8),
  (["gunjalagondi", "gong"], 0x11D6A, 0x11D8E),
  (["gurmukhi", "guru"], 0xA13, 0xA28),
  (["gurungkhema", "gukh"], 0x16100, 0x16139),
  (["han", "hani"], 0x4E00, 0x9FFF),
  (["hangul", "hang"], 0xAC00, 0xD7A3),
  (["hanifirohingya", "rohg"], 0x10D00, 0x10D27),
  (["hanunoo", "hano"], 0x1720, 0x1734),
  (["hatran", "hatr"], 0x108E0, 0x108F2),
  (["hebrew", "hebr"], 0x591, 0x5C7),
  (["hiragana", "hira"], 0x3041, 0x3096),
  (["imperialaramaic", "armi"], 0x10840, 0x10855),
  (["inherited", "zinh", "qaai"], 0x300, 0x36F),
  (["inscriptionalpahlavi", "phli"], 0x10B60, 0x10B72),
  (["inscriptionalparthian", "prti"], 0x10B40, 0x10B55),
  (["javanese", "java"], 0xA980, 0xA9CD),
  (["kaithi", "kthi"], 0x11080, 0x110C2),
  (["kannada", "knda"], 0xC92, 0xCA8),
  (["katakana", "kana"], 0x30A0, 0x30FF),
  (["kawi"], 0x11F12, 0x11F34),
  (["kayahli", "kali"], 0xA900, 0xA92F),
  (["kharoshthi", "khar"], 0x10A19, 0x10A35),
  (["khitansmallscript", "kits"], 0x18B00, 0x18CD5),
  (["khmer", "khmr"], 0x1780, 0x17DD),
  (["khojki", "khoj"], 0x11213, 0x1123E),
  (["khudawadi", "sind"], 0x112B0, 0x112EA),
  (["kiratrai", "krai"], 0x16D40, 0x16D79),
  (["lao", "laoo"], 0xE8C, 0xEA3),
  (["latin", "latn"], 0x41, 0x5A),
  (["lepcha", "lepc"], 0x1C00, 0x1C37),
  (["limbu", "limb"], 0x1900, 0x191E),
  (["lineara", "lina"], 0x10600, 0x10736),
  (["linearb", "linb"], 0x10080, 0x100FA),
  (["lisu"], 0xA4D0, 0xA4FF),
  (["lycian", "lyci"], 0x10280, 0x1029C),
  (["lydian", "lydi"], 0x10920, 0x10939),
  (["mahajani", "mahj"], 0x11150, 0x11176),
  (["makasar", "maka"], 0x11EE0, 0x11EF8),
  (["malayalam", "mlym"], 0xD12, 0xD44),
  (["mandaic", "mand"], 0x840, 0x85B),
  (["manichaean", "mani"], 0x10AC0, 0x10AE6),
  (["marchen", "marc"], 0x11C70, 0x11C8F),
  (["masaramgondi", "gonm"], 0x11D0B, 0x11D36),
  (["medefaidrin", "medf"], 0x16E40, 0x16E9A),
  (["meeteimayek", "mtei"], 0xABC0, 0xABED),
  (["mendekikakui", "mend"], 0x1E800, 0x1E8C4),
  (["meroiticcursive", "merc"], 0x109D2, 0x109FF),
  (["meroitichieroglyphs", "mero"], 0x10980, 0x1099F),
  (["miao", "plrd"], 0x16F00, 0x16F4A),
  (["modi"], 0x11600, 0x11644),
  (["mongolian", "mong"], 0x1820, 0x1878),
  (["mro", "mroo"], 0x16A40, 0x16A5E),
  (["multani", "mult"], 0x1128F, 0x1129D),
  (["myanmar", "mymr"], 0x1000, 0x109F),
  (["nabataean", "nbat"], 0x10880, 0x1089E),
  (["nagmundari", "nagm"], 0x1E4D0, 0x1E4F9),
  (["nandinagari", "nand"], 0x119AA, 0x119D7),
  (["newtailue", "talu"], 0x1980, 0x19AB),
  (["newa"], 0x11400, 0x1145B),
  (["nko", "nkoo"], 0x7C0, 0x7FA),
  (["nushu", "nshu"], 0x1B170, 0x1B2FB),
  (["nyiakengpuachuehmong", "hmnp"], 0x1E100, 0x1E12C),
  (["ogham", "ogam"], 0x1680, 0x169C),
  (["olchiki", "olck"], 0x1C50, 0x1C7F),
  (["olonal", "onao"], 0x1E5D0, 0x1E5FA),
  (["oldhungarian", "hung"], 0x10C80, 0x10CB2),
  (["olditalic", "ital"], 0x10300, 0x10323),
  (["oldnortharabian", "narb"], 0x10A80, 0x10A9F),
  (["oldpermic", "perm"], 0x10350, 0x10375),
  (["oldpersian", "xpeo"], 0x103A0, 0x103C3),
  (["oldsogdian", "sogo"], 0x10F00, 0x10F27),
  (["oldsoutharabian", "sarb"], 0x10A60, 0x10A7F),
  (["oldturkic", "orkh"], 0x10C00, 0x10C48),
  (["olduyghur", "ougr"], 0x10F70, 0x10F89),
  (["oriya", "orya"], 0xB13, 0xB28),
  (["osage", "osge"], 0x104B0, 0x104D3),
  (["osmanya", "osma"], 0x10480, 0x1049D),
  (["pahawhhmong", "hmng"], 0x16B00, 0x16B45),
  (["palmyrene", "palm"], 0x10860, 0x1087F),
  (["paucinhau", "pauc"], 0x11AC0, 0x11AF8),
  (["phagspa", "phag"], 0xA840, 0xA877),
  (["phoenician", "phnx"], 0x10900, 0x1091B),
  (["psalterpahlavi", "phlp"], 0x10B80, 0x10B91),
  (["rejang", "rjng"], 0xA930, 0xA953),
  (["runic", "runr"], 0x16A0, 0x16F8),
  (["samaritan", "samr"], 0x800, 0x82D),
  (["saurashtra", "saur"], 0xA880, 0xA8C5),
  (["sharada", "shrd"], 0x11180, 0x111DF),
  (["shavian", "shaw"], 0x10450, 0x1047F),
  (["siddham", "sidd"], 0x11580, 0x115B5),
  (["signwriting", "sgnw"], 0x1D800, 0x1DA8B),
  (["sinhala", "sinh"], 0xD9A, 0xDB1),
  (["sogdian", "sogd"], 0x10F30, 0x10F59),
  (["sorasompeng", "sora"], 0x110D0, 0x110E8),
  (["soyombo", "soyo"], 0x11A50, 0x11AA2),
  (["sundanese", "sund"], 0x1B80, 0x1BBF),
  (["sunuwar", "sunu"], 0x11BC0, 0x11BE1),
  (["sylotinagri", "sylo"], 0xA800, 0xA82C),
  (["syriac", "syrc"], 0x70F, 0x74A),
  (["tagalog", "tglg"], 0x1700, 0x1715),
  (["tagbanwa", "tagb"], 0x1760, 0x176C),
  (["taile", "tale"], 0x1950, 0x196D),
  (["taitham", "lana"], 0x1A20, 0x1A5E),
  (["taiviet", "tavt"], 0xAA80, 0xAAC2),
  (["takri", "takr"], 0x11680, 0x116B9),
  (["tamil", "taml"], 0x11FC0, 0x11FF1),
  (["tangsa", "tnsa"], 0x16A70, 0x16ABE),
  (["tangut", "tang"], 0x18800, 0x18AFF),
  (["telugu", "telu"], 0xC12, 0xC28),
  (["thaana", "thaa"], 0x780, 0x7B1),
  (["thai"], 0xE01, 0xE3A),
  (["tibetan", "tibt"], 0xF00, 0xF47),
  (["tifinagh", "tfng"], 0x2D30, 0x2D67),
  (["tirhuta", "tirh"], 0x11480, 0x114C7),
  (["todhri", "todr"], 0x105C0, 0x105F3),
  (["toto"], 0x1E290, 0x1E2AE),
  (["tulutigalari", "tutg"], 0x11392, 0x113B5),
  (["ugaritic", "ugar"], 0x10380, 0x1039D),
  (["vai", "vaii"], 0xA500, 0xA62B),
  (["vithkuqi", "vith"], 0x1057C, 0x1058A),
  (["wancho", "wcho"], 0x1E2C0, 0x1E2F9),
  (["warangciti", "wara"], 0x118A0, 0x118F2),
  (["yezidi", "yezi"], 0x10E80, 0x10EA9),
  (["yi", "yiii"], 0xA000, 0xA48C),
  (["zanabazarsquare", "zanb"], 0x11A00, 0x11A47)]

/-- The versions in which characters were assigned. -/
def ageNames : List String := [
  "1.1", "2.0", "2.1", "3.0", "3.1", "3.2", "4.0", "4.1", "5.0", "5.1", "5.2", "6.0", "6.1", "6.2",
  "6.3", "7.0", "8.0", "9.0", "10.0", "11.0", "12.0", "12.1", "13.0", "14.0", "15.0", "15.1", "16.0"]

def lookUp (table : List (List String × Nat × Nat)) (name : String) : Option CharSet :=
  (table.find? fun entry => entry.1.contains name).map fun entry =>
    CharSet.ofCodeRanges [(entry.2.1, entry.2.2)]

namespace CharacterTable

/-- Words are made of ASCII letters, of letters with a case, of digits and of the underscore. -/
def standardWords : CharSet :=
  let basic := CharSet.ofCodeRanges [(0x30, 0x39), (0x41, 0x5A), (0x5F, 0x5F), (0x61, 0x7A)]
  (basic.union (CharSet.ofCodeRanges Text.casedRanges)).union (CharSet.ofCodeRanges Text.digitRanges)

def standard : CharacterTable where
  words := standardWords
  boolean? := lookUp booleanProperties
  category? name := if name == "assigned" then asciiClass? "print" else lookUp categoryProperties name
  script? := lookUp scriptProperties
  age? name :=
    let bare (age : String) : String := String.ofList (age.toList.filter (· != '.'))
    if ageNames.any fun age => name == age || name == "v" ++ bare age then asciiClass? "print" else none

end CharacterTable

end SchemaMocks.Pattern
