/-!
The scripts of characters, under their short and long names.  A range may go over code points that
no character has.
-/

namespace ApkAudit.Text

def scripts : List (List String × List (Nat × Nat)) := [
  (["zyyy", "common"], [
    (0x0, 0x40), (0x5B, 0x60), (0x7B, 0xA9), (0xAB, 0xB9), (0xBB, 0xBF), (0xD7, 0xD7),
    (0xF7, 0xF7), (0x2B9, 0x2DF), (0x2E5, 0x2E9), (0x2EC, 0x2FF), (0x374, 0x374), (0x37E, 0x37E),
    (0x385, 0x385), (0x387, 0x387), (0x605, 0x605), (0x60C, 0x60C), (0x61B, 0x61B),
    (0x61F, 0x61F), (0x640, 0x640), (0x6DD, 0x6DD), (0x8E2, 0x8E2), (0x964, 0x965),
    (0xE3F, 0xE3F), (0xFD5, 0xFD8), (0x10FB, 0x10FB), (0x16EB, 0x16ED), (0x1735, 0x1736),
    (0x1802, 0x1803), (0x1805, 0x1805), (0x1CD3, 0x1CD3), (0x1CE1, 0x1CE1), (0x1CE9, 0x1CEC),
    (0x1CEE, 0x1CF3), (0x1CF5, 0x1CF7), (0x1CFA, 0x1CFA), (0x2000, 0x200B), (0x200E, 0x2070),
    (0x2074, 0x207E), (0x2080, 0x208E), (0x20A0, 0x20C0), (0x2100, 0x2125), (0x2127, 0x2129),
    (0x212C, 0x2131), (0x2133, 0x214D), (0x214F, 0x215F), (0x2189, 0x27FF), (0x2900, 0x2BFF),
    (0x2E00, 0x2E5D), (0x2FF0, 0x3004), (0x3006, 0x3006), (0x3008, 0x3020), (0x3030, 0x3037),
    (0x303C, 0x303F), (0x309B, 0x309C), (0x30A0, 0x30A0), (0x30FB, 0x30FC), (0x3190, 0x319F),
    (0x31C0, 0x31EF), (0x3220, 0x325F), (0x327F, 0x32CF), (0x32FF, 0x32FF), (0x3358, 0x33FF),
    (0x4DC0, 0x4DFF), (0xA700, 0xA721), (0xA788, 0xA78A), (0xA830, 0xA839), (0xA92E, 0xA92E),
    (0xA9CF, 0xA9CF), (0xAB5B, 0xAB5B), (0xAB6A, 0xAB6B), (0xFD3E, 0xFD3F), (0xFE10, 0xFE19),
    (0xFE30, 0xFE6B), (0xFEFF, 0xFF20), (0xFF3B, 0xFF40), (0xFF5B, 0xFF65), (0xFF70, 0xFF70),
    (0xFF9E, 0xFF9F), (0xFFE0, 0xFFFD), (0x10100, 0x1013F), (0x10190, 0x1019C),
    (0x101D0, 0x101FC), (0x102E1, 0x102FB), (0x1BCA0, 0x1CEB3), (0x1CF50, 0x1D166),
    (0x1D16A, 0x1D17A), (0x1D183, 0x1D184), (0x1D18C, 0x1D1A9), (0x1D1AE, 0x1D1EA),
    (0x1D2C0, 0x1D7FF), (0x1EC71, 0x1ED3D), (0x1F000, 0x1F1FF), (0x1F201, 0x1FBF9),
    (0xE0001, 0xE007F)]),
  (["latn", "latin"], [
    (0x41, 0x5A), (0x61, 0x7A), (0xAA, 0xAA), (0xBA, 0xBA), (0xC0, 0xD6), (0xD8, 0xF6),
    (0xF8, 0x2B8), (0x2E0, 0x2E4), (0x1D00, 0x1D25), (0x1D2C, 0x1D5C), (0x1D62, 0x1D65),
    (0x1D6B, 0x1D77), (0x1D79, 0x1DBE), (0x1E00, 0x1EFF), (0x2071, 0x2071), (0x207F, 0x207F),
    (0x2090, 0x209C), (0x212A, 0x212B), (0x2132, 0x2132), (0x214E, 0x214E), (0x2160, 0x2188),
    (0x2C60, 0x2C7F), (0xA722, 0xA787), (0xA78B, 0xA7FF), (0xAB30, 0xAB5A), (0xAB5C, 0xAB64),
    (0xAB66, 0xAB69), (0xFB00, 0xFB06), (0xFF21, 0xFF3A), (0xFF41, 0xFF5A), (0x10780, 0x107BA),
    (0x1DF00, 0x1DF2A)]),
  (["bopo", "bopomofo"], [(0x2EA, 0x2EB), (0x3105, 0x312F), (0x31A0, 0x31BF)]),
  (["zinh", "inherited", "qaai"], [
    (0x300, 0x36F), (0x485, 0x486), (0x64B, 0x655), (0x670, 0x670), (0x951, 0x954),
    (0x1AB0, 0x1ACE), (0x1CD0, 0x1CD2), (0x1CD4, 0x1CE0), (0x1CE2, 0x1CE8), (0x1CED, 0x1CED),
    (0x1CF4, 0x1CF4), (0x1CF8, 0x1CF9), (0x1DC0, 0x1DFF), (0x200C, 0x200D), (0x20D0, 0x20F0),
    (0x302A, 0x302D), (0x3099, 0x309A), (0xFE00, 0xFE0F), (0xFE20, 0xFE2D), (0x101FD, 0x101FD),
    (0x102E0, 0x102E0), (0x1133B, 0x1133B), (0x1CF00, 0x1CF46), (0x1D167, 0x1D169),
    (0x1D17B, 0x1D182), (0x1D185, 0x1D18B), (0x1D1AA, 0x1D1AD), (0xE0100, 0xE01EF)]),
  (["grek", "greek"], [
    (0x370, 0x373), (0x375, 0x37D), (0x37F, 0x384), (0x386, 0x386), (0x388, 0x3E1),
    (0x3F0, 0x3FF), (0x1D26, 0x1D2A), (0x1D5D, 0x1D61), (0x1D66, 0x1D6A), (0x1DBF, 0x1DBF),
    (0x1F00, 0x1FFE), (0x2126, 0x2126), (0xAB65, 0xAB65), (0x10140, 0x1018E), (0x101A0, 0x101A0),
    (0x1D200, 0x1D245)]),
  (["copt", "coptic", "qaac"], [(0x3E2, 0x3EF), (0x2C80, 0x2CFF)]),
  (["cyrl", "cyrillic"], [
    (0x400, 0x484), (0x487, 0x52F), (0x1C80, 0x1C8A), (0x1D2B, 0x1D2B), (0x1D78, 0x1D78),
    (0x2DE0, 0x2DFF), (0xA640, 0xA69F), (0xFE2E, 0xFE2F), (0x1E030, 0x1E08F)]),
  (["armn", "armenian"], [(0x531, 0x58F), (0xFB13, 0xFB17)]),
  (["hebr", "hebrew"], [(0x591, 0x5F4), (0xFB1D, 0xFB4F)]),
  (["arab", "arabic"], [
    (0x600, 0x604), (0x606, 0x60B), (0x60D, 0x61A), (0x61C, 0x61E), (0x620, 0x63F),
    (0x641, 0x64A), (0x656, 0x66F), (0x671, 0x6DC), (0x6DE, 0x6FF), (0x750, 0x77F),
    (0x870, 0x8E1), (0x8E3, 0x8FF), (0xFB50, 0xFD3D), (0xFD40, 0xFDFF), (0xFE70, 0xFEFC),
    (0x10E60, 0x10E7E), (0x10EC2, 0x10EFF), (0x1EE00, 0x1EEF1)]),
  (["syrc", "syriac"], [(0x700, 0x74F), (0x860, 0x86A)]),
  (["thaa", "thaana"], [(0x780, 0x7B1)]),
  (["nkoo", "nko"], [(0x7C0, 0x7FF)]),
  (["samr", "samaritan"], [(0x800, 0x83E)]),
  (["mand", "mandaic"], [(0x840, 0x85E)]),
  (["deva", "devanagari"], [
    (0x900, 0x950), (0x955, 0x963), (0x966, 0x97F), (0xA8E0, 0xA8FF), (0x11B00, 0x11B09)]),
  (["beng", "bengali"], [(0x980, 0x9FE)]),
  (["guru", "gurmukhi"], [(0xA01, 0xA76)]),
  (["gujr", "gujarati"], [(0xA81, 0xAFF)]),
  (["orya", "oriya"], [(0xB01, 0xB77)]),
  (["taml", "tamil"], [(0xB82, 0xBFA), (0x11FC0, 0x11FFF)]),
  (["telu", "telugu"], [(0xC00, 0xC7F)]),
  (["knda", "kannada"], [(0xC80, 0xCF3)]),
  (["mlym", "malayalam"], [(0xD00, 0xD7F)]),
  (["sinh", "sinhala"], [(0xD81, 0xDF4), (0x111E1, 0x111F4)]),
  (["thai"], [(0xE01, 0xE3A), (0xE40, 0xE5B)]),
  (["laoo", "lao"], [(0xE81, 0xEDF)]),
  (["tibt", "tibetan"], [(0xF00, 0xFD4), (0xFD9, 0xFDA)]),
  (["mymr", "myanmar"], [
    (0x1000, 0x109F), (0xA9E0, 0xA9FE), (0xAA60, 0xAA7F), (0x116D0, 0x116E3)]),
  (["geor", "georgian"], [(0x10A0, 0x10FA), (0x10FC, 0x10FF), (0x1C90, 0x1CBF), (0x2D00, 0x2D2D)]),
  (["hang", "hangul"], [
    (0x1100, 0x11FF), (0x302E, 0x302F), (0x3131, 0x318E), (0x3200, 0x321E), (0x3260, 0x327E),
    (0xA960, 0xA97C), (0xAC00, 0xD7FB), (0xFFA0, 0xFFDC)]),
  (["ethi", "ethiopic"], [
    (0x1200, 0x1399), (0x2D80, 0x2DDE), (0xAB01, 0xAB2E), (0x1E7E0, 0x1E7FE)]),
  (["cher", "cherokee"], [(0x13A0, 0x13FD), (0xAB70, 0xABBF)]),
  (["cans", "canadianaboriginal"], [(0x1400, 0x167F), (0x18B0, 0x18F5), (0x11AB0, 0x11ABF)]),
  (["ogam", "ogham"], [(0x1680, 0x169C)]),
  (["runr", "runic"], [(0x16A0, 0x16EA), (0x16EE, 0x16F8)]),
  (["tglg", "tagalog"], [(0x1700, 0x171F)]),
  (["hano", "hanunoo"], [(0x1720, 0x1734)]),
  (["buhd", "buhid"], [(0x1740, 0x1753)]),
  (["tagb", "tagbanwa"], [(0x1760, 0x1773)]),
  (["khmr", "khmer"], [(0x1780, 0x17F9), (0x19E0, 0x19FF)]),
  (["mong", "mongolian"], [
    (0x1800, 0x1801), (0x1804, 0x1804), (0x1806, 0x18AA), (0x11660, 0x1166C)]),
  (["limb", "limbu"], [(0x1900, 0x194F)]),
  (["tale", "taile"], [(0x1950, 0x1974)]),
  (["talu", "newtailue"], [(0x1980, 0x19DF)]),
  (["bugi", "buginese"], [(0x1A00, 0x1A1F)]),
  (["lana", "taitham"], [(0x1A20, 0x1AAD)]),
  (["bali", "balinese"], [(0x1B00, 0x1B7F)]),
  (["sund", "sundanese"], [(0x1B80, 0x1BBF), (0x1CC0, 0x1CC7)]),
  (["batk", "batak"], [(0x1BC0, 0x1BFF)]),
  (["lepc", "lepcha"], [(0x1C00, 0x1C4F)]),
  (["olck", "olchiki"], [(0x1C50, 0x1C7F)]),
  (["brai", "braille"], [(0x2800, 0x28FF)]),
  (["glag", "glagolitic"], [(0x2C00, 0x2C5F), (0x1E000, 0x1E02A)]),
  (["tfng", "tifinagh"], [(0x2D30, 0x2D7F)]),
  (["hani", "han"], [
    (0x2E80, 0x2FD5), (0x3005, 0x3005), (0x3007, 0x3007), (0x3021, 0x3029), (0x3038, 0x303B),
    (0x3400, 0x4DBF), (0x4E00, 0x9FFF), (0xF900, 0xFAD9), (0x16FE2, 0x16FE3), (0x16FF0, 0x16FF1),
    (0x20000, 0x323AF)]),
  (["hira", "hiragana"], [
    (0x3041, 0x3096), (0x309D, 0x309F), (0x1B001, 0x1B11F), (0x1B132, 0x1B152),
    (0x1F200, 0x1F200)]),
  (["kana", "katakana"], [
    (0x30A1, 0x30FA), (0x30FD, 0x30FF), (0x31F0, 0x31FF), (0x32D0, 0x32FE), (0x3300, 0x3357),
    (0xFF66, 0xFF6F), (0xFF71, 0xFF9D), (0x1AFF0, 0x1B000), (0x1B120, 0x1B122),
    (0x1B155, 0x1B167)]),
  (["yiii", "yi"], [(0xA000, 0xA4C6)]),
  (["lisu"], [(0xA4D0, 0xA4FF), (0x11FB0, 0x11FB0)]),
  (["vaii", "vai"], [(0xA500, 0xA62B)]),
  (["bamu", "bamum"], [(0xA6A0, 0xA6F7), (0x16800, 0x16A38)]),
  (["sylo", "sylotinagri"], [(0xA800, 0xA82C)]),
  (["phag", "phagspa"], [(0xA840, 0xA877)]),
  (["saur", "saurashtra"], [(0xA880, 0xA8D9)]),
  (["kali", "kayahli"], [(0xA900, 0xA92D), (0xA92F, 0xA92F)]),
  (["rjng", "rejang"], [(0xA930, 0xA95F)]),
  (["java", "javanese"], [(0xA980, 0xA9CD), (0xA9D0, 0xA9DF)]),
  (["cham"], [(0xAA00, 0xAA5F)]),
  (["tavt", "taiviet"], [(0xAA80, 0xAADF)]),
  (["mtei", "meeteimayek"], [(0xAAE0, 0xAAF6), (0xABC0, 0xABF9)]),
  (["linb", "linearb"], [(0x10000, 0x100FA)]),
  (["lyci", "lycian"], [(0x10280, 0x1029C)]),
  (["cari", "carian"], [(0x102A0, 0x102D0)]),
  (["ital", "olditalic"], [(0x10300, 0x1032F)]),
  (["goth", "gothic"], [(0x10330, 0x1034A)]),
  (["perm", "oldpermic"], [(0x10350, 0x1037A)]),
  (["ugar", "ugaritic"], [(0x10380, 0x1039F)]),
  (["xpeo", "oldpersian"], [(0x103A0, 0x103D5)]),
  (["dsrt", "deseret"], [(0x10400, 0x1044F)]),
  (["shaw", "shavian"], [(0x10450, 0x1047F)]),
  (["osma", "osmanya"], [(0x10480, 0x104A9)]),
  (["osge", "osage"], [(0x104B0, 0x104FB)]),
  (["elba", "elbasan"], [(0x10500, 0x10527)]),
  (["aghb", "caucasianalbanian"], [(0x10530, 0x1056F)]),
  (["vith", "vithkuqi"], [(0x10570, 0x105BC)]),
  (["todr", "todhri"], [(0x105C0, 0x105F3)]),
  (["lina", "lineara"], [(0x10600, 0x10767)]),
  (["cprt", "cypriot"], [(0x10800, 0x1083F)]),
  (["armi", "imperialaramaic"], [(0x10840, 0x1085F)]),
  (["palm", "palmyrene"], [(0x10860, 0x1087F)]),
  (["nbat", "nabataean"], [(0x10880, 0x108AF)]),
  (["hatr", "hatran"], [(0x108E0, 0x108FF)]),
  (["phnx", "phoenician"], [(0x10900, 0x1091F)]),
  (["lydi", "lydian"], [(0x10920, 0x1093F)]),
  (["mero", "meroitichieroglyphs"], [(0x10980, 0x1099F)]),
  (["merc", "meroiticcursive"], [(0x109A0, 0x109FF)]),
  (["khar", "kharoshthi"], [(0x10A00, 0x10A58)]),
  (["sarb", "oldsoutharabian"], [(0x10A60, 0x10A7F)]),
  (["narb", "oldnortharabian"], [(0x10A80, 0x10A9F)]),
  (["mani", "manichaean"], [(0x10AC0, 0x10AF6)]),
  (["avst", "avestan"], [(0x10B00, 0x10B3F)]),
  (["prti", "inscriptionalparthian"], [(0x10B40, 0x10B5F)]),
  (["phli", "inscriptionalpahlavi"], [(0x10B60, 0x10B7F)]),
  (["phlp", "psalterpahlavi"], [(0x10B80, 0x10BAF)]),
  (["orkh", "oldturkic"], [(0x10C00, 0x10C48)]),
  (["hung", "oldhungarian"], [(0x10C80, 0x10CFF)]),
  (["rohg", "hanifirohingya"], [(0x10D00, 0x10D39)]),
  (["gara", "garay"], [(0x10D40, 0x10D8F)]),
  (["yezi", "yezidi"], [(0x10E80, 0x10EB1)]),
  (["sogo", "oldsogdian"], [(0x10F00, 0x10F27)]),
  (["sogd", "sogdian"], [(0x10F30, 0x10F59)]),
  (["ougr", "olduyghur"], [(0x10F70, 0x10F89)]),
  (["chrs", "chorasmian"], [(0x10FB0, 0x10FCB)]),
  (["elym", "elymaic"], [(0x10FE0, 0x10FF6)]),
  (["brah", "brahmi"], [(0x11000, 0x1107F)]),
  (["kthi", "kaithi"], [(0x11080, 0x110CD)]),
  (["sora", "sorasompeng"], [(0x110D0, 0x110F9)]),
  (["cakm", "chakma"], [(0x11100, 0x11147)]),
  (["mahj", "mahajani"], [(0x11150, 0x11176)]),
  (["shrd", "sharada"], [(0x11180, 0x111DF)]),
  (["khoj", "khojki"], [(0x11200, 0x11241)]),
  (["mult", "multani"], [(0x11280, 0x112A9)]),
  (["sind", "khudawadi"], [(0x112B0, 0x112F9)]),
  (["gran", "grantha"], [(0x11300, 0x11339), (0x1133C, 0x11374)]),
  (["tutg", "tulutigalari"], [(0x11380, 0x113E2)]),
  (["newa"], [(0x11400, 0x11461)]),
  (["tirh", "tirhuta"], [(0x11480, 0x114D9)]),
  (["sidd", "siddham"], [(0x11580, 0x115DD)]),
  (["modi"], [(0x11600, 0x11659)]),
  (["takr", "takri"], [(0x11680, 0x116C9)]),
  (["ahom"], [(0x11700, 0x11746)]),
  (["dogr", "dogra"], [(0x11800, 0x1183B)]),
  (["wara", "warangciti"], [(0x118A0, 0x118FF)]),
  (["diak", "divesakuru"], [(0x11900, 0x11959)]),
  (["nand", "nandinagari"], [(0x119A0, 0x119E4)]),
  (["zanb", "zanabazarsquare"], [(0x11A00, 0x11A47)]),
  (["soyo", "soyombo"], [(0x11A50, 0x11AA2)]),
  (["pauc", "paucinhau"], [(0x11AC0, 0x11AF8)]),
  (["sunu", "sunuwar"], [(0x11BC0, 0x11BF9)]),
  (["bhks", "bhaiksuki"], [(0x11C00, 0x11C6C)]),
  (["marc", "marchen"], [(0x11C70, 0x11CB6)]),
  (["gonm", "masaramgondi"], [(0x11D00, 0x11D59)]),
  (["gong", "gunjalagondi"], [(0x11D60, 0x11DA9)]),
  (["maka", "makasar"], [(0x11EE0, 0x11EF8)]),
  (["kawi"], [(0x11F00, 0x11F5A)]),
  (["xsux", "cuneiform"], [(0x12000, 0x12543)]),
  (["cpmn", "cyprominoan"], [(0x12F90, 0x12FF2)]),
  (["egyp", "egyptianhieroglyphs"], [(0x13000, 0x143FA)]),
  (["hluw", "anatolianhieroglyphs"], [(0x14400, 0x14646)]),
  (["gukh", "gurungkhema"], [(0x16100, 0x16139)]),
  (["mroo", "mro"], [(0x16A40, 0x16A6F)]),
  (["tnsa", "tangsa"], [(0x16A70, 0x16AC9)]),
  (["bass", "bassavah"], [(0x16AD0, 0x16AF5)]),
  (["hmng", "pahawhhmong"], [(0x16B00, 0x16B8F)]),
  (["krai", "kiratrai"], [(0x16D40, 0x16D79)]),
  (["medf", "medefaidrin"], [(0x16E40, 0x16E9A)]),
  (["plrd", "miao"], [(0x16F00, 0x16F9F)]),
  (["tang", "tangut"], [(0x16FE0, 0x16FE0), (0x17000, 0x18AFF), (0x18D00, 0x18D08)]),
  (["nshu", "nushu"], [(0x16FE1, 0x16FE1), (0x1B170, 0x1B2FB)]),
  (["kits", "khitansmallscript"], [(0x16FE4, 0x16FE4), (0x18B00, 0x18CFF)]),
  (["dupl", "duployan"], [(0x1BC00, 0x1BC9F)]),
  (["sgnw", "signwriting"], [(0x1D800, 0x1DAAF)]),
  (["hmnp", "nyiakengpuachuehmong"], [(0x1E100, 0x1E14F)]),
  (["toto"], [(0x1E290, 0x1E2AE)]),
  (["wcho", "wancho"], [(0x1E2C0, 0x1E2FF)]),
  (["nagm", "nagmundari"], [(0x1E4D0, 0x1E4F9)]),
  (["onao", "olonal"], [(0x1E5D0, 0x1E5FF)]),
  (["mend", "mendekikakui"], [(0x1E800, 0x1E8D6)]),
  (["adlm", "adlam"], [(0x1E900, 0x1E95F)])]

end ApkAudit.Text
