import ApkAudit.Pattern.CharSet
import ApkAudit.Text.Script

/-!
Sets of characters by the name of a property, a category or a script.
-/

namespace ApkAudit.CharSet

open Text

def unions : List CharSet → CharSet
  | [] => nothing
  | [s] => s
  | s :: rest => union s (unions rest)

/-! Categories -/

def upperLetters : CharSet := table Category.upper

def lowerLetters : CharSet := table Category.lower

def casedLetters : CharSet := unions [upperLetters, lowerLetters, table Category.title]

def marks : CharSet :=
  unions [table Category.flatMark, table Category.wideMark, table Category.enclosingMark]

def enclosedLetters : CharSet :=
  ranges [(0x24B6, 0x24E9), (0x1F130, 0x1F149), (0x1F150, 0x1F169), (0x1F170, 0x1F189)]

def joiners : CharSet := range 0x200C 0x200D

def letters : CharSet :=
  minus word (unions [marks, digit, table Category.joint, table Category.letterNumber,
    enclosedLetters, joiners])

def numbers : CharSet := unions [digit, table Category.letterNumber, table Category.otherNumber]

def punctuation : CharSet :=
  unions [table Category.joint, table Category.dash, table Category.opening,
    table Category.closing, table Category.openingQuote, table Category.closingQuote,
    table Category.otherPunctuation]

def signs : CharSet :=
  unions [table Category.mathSign, table Category.currencySign, table Category.modifierSign,
    table Category.otherSign]

def spaces : CharSet :=
  ranges [(0x20, 0x20), (0xA0, 0xA0), (0x1680, 0x1680), (0x2000, 0x200A), (0x202F, 0x202F),
    (0x205F, 0x205F), (0x3000, 0x3000)]

def separators : CharSet := union spaces (range 0x2028 0x2029)

def controls : CharSet := ranges [(0x0, 0x1F), (0x7F, 0x9F)]

def privateUse : CharSet := ranges [(0xE000, 0xF8FF), (0xF0000, 0xFFFFD), (0x100000, 0x10FFFD)]

def assigned : CharSet :=
  unions [letters, marks, numbers, punctuation, signs, separators, controls,
    table Category.formatSign, privateUse]

def categories : List (List String × CharSet) := [
  (["any"], any),
  (["assigned"], assigned),
  (["ascii"], range 0x0 0x7F),
  (["l", "letter"], letters),
  (["lu", "uppercaseletter"], upperLetters),
  (["ll", "lowercaseletter"], lowerLetters),
  (["lt", "titlecaseletter"], table Category.title),
  (["lc", "casedletter"], casedLetters),
  (["lm", "modifierletter"], table Category.modifierLetter),
  (["lo", "otherletter"], minus letters (union casedLetters (table Category.modifierLetter))),
  (["m", "mark", "combiningmark"], marks),
  (["mn", "nonspacingmark"], table Category.flatMark),
  (["mc", "spacingmark"], table Category.wideMark),
  (["me", "enclosingmark"], table Category.enclosingMark),
  (["n", "number"], numbers),
  (["nd", "decimalnumber", "digit"], digit),
  (["nl", "letternumber"], table Category.letterNumber),
  (["no", "othernumber"], table Category.otherNumber),
  (["p", "punctuation", "punct"], punctuation),
  (["pc", "connectorpunctuation"], table Category.joint),
  (["pd", "dashpunctuation"], table Category.dash),
  (["ps", "openpunctuation"], table Category.opening),
  (["pe", "closepunctuation"], table Category.closing),
  (["pi", "initialpunctuation"], table Category.openingQuote),
  (["pf", "finalpunctuation"], table Category.closingQuote),
  (["po", "otherpunctuation"], table Category.otherPunctuation),
  (["s", "symbol"], signs),
  (["sm", "mathsymbol"], table Category.mathSign),
  (["sc", "currencysymbol"], table Category.currencySign),
  (["sk", "modifiersymbol"], table Category.modifierSign),
  (["so", "othersymbol"], table Category.otherSign),
  (["z", "separator"], separators),
  (["zs", "spaceseparator"], spaces),
  (["zl", "lineseparator"], range 0x2028 0x2028),
  (["zp", "paragraphseparator"], range 0x2029 0x2029),
  (["c", "other"], unions [controls, table Category.formatSign, privateUse, other assigned]),
  (["cc", "control", "cntrl"], controls),
  (["cf", "format"], table Category.formatSign),
  (["cn", "unassigned"], other assigned),
  (["co", "privateuse"], privateUse),
  (["cs", "surrogate"], nothing)]

/-! Properties that a character has or has not -/

def otherLower : CharSet :=
  ranges [(0xAA, 0xAA), (0xBA, 0xBA), (0x2B0, 0x2B8), (0x2C0, 0x2C1), (0x2E0, 0x2E4),
    (0x345, 0x345), (0x37A, 0x37A), (0x10FC, 0x10FC), (0x1D2C, 0x1D6A), (0x1D78, 0x1D78),
    (0x1D9B, 0x1DBF), (0x2071, 0x2071), (0x207F, 0x207F), (0x2090, 0x209C), (0x2170, 0x217F),
    (0x24D0, 0x24E9), (0x2C7C, 0x2C7D), (0xA69C, 0xA69D), (0xA770, 0xA770), (0xA7F2, 0xA7F4),
    (0xA7F8, 0xA7F9), (0xAB5C, 0xAB5F), (0xAB69, 0xAB69), (0x10780, 0x10780), (0x10783, 0x107BA),
    (0x1E030, 0x1E06D)]

def otherUpper : CharSet :=
  ranges [(0x2160, 0x216F), (0x24B6, 0x24CF), (0x1F130, 0x1F149), (0x1F150, 0x1F169),
    (0x1F170, 0x1F189)]

def lower : CharSet := union lowerLetters otherLower

def upper : CharSet := union upperLetters otherUpper

def alphabetic : CharSet :=
  unions [letters, table Category.letterNumber, table Category.letterSign]

def hexDigits : CharSet := ranges [(0x30, 0x39), (0x41, 0x46), (0x61, 0x66)]

def nameStart : CharSet :=
  unions [letters, table Category.letterNumber,
    ranges [(0x1885, 0x1886), (0x2118, 0x2118), (0x212E, 0x212E), (0x309B, 0x309C)]]

def namePart : CharSet :=
  unions [nameStart, marks, digit, table Category.joint, joiners,
    ranges [(0xB7, 0xB7), (0x387, 0x387), (0x1369, 0x1371), (0x19DA, 0x19DA), (0x30FB, 0x30FB),
      (0xFF65, 0xFF65)]]

def ideographs : CharSet :=
  ranges [(0x3006, 0x3007), (0x3021, 0x3029), (0x3038, 0x303A), (0x3400, 0x4DBF),
    (0x4E00, 0x9FFF), (0xF900, 0xFAD9), (0x16FE4, 0x16FE4), (0x17000, 0x18CD5),
    (0x18CFF, 0x18D08), (0x1B170, 0x1B2FB), (0x20000, 0x323AF)]

def pictographs : CharSet :=
  ranges [(0xA9, 0xA9), (0xAE, 0xAE), (0x203C, 0x203C), (0x2049, 0x2049), (0x2122, 0x2122),
    (0x2139, 0x2139), (0x2194, 0x2199), (0x21A9, 0x21AA), (0x231A, 0x231B), (0x2328, 0x2328),
    (0x23CF, 0x23CF), (0x23E9, 0x23F3), (0x23F8, 0x23FA), (0x24C2, 0x24C2), (0x25AA, 0x25AB),
    (0x25B6, 0x25B6), (0x25C0, 0x25C0), (0x25FB, 0x25FE), (0x2600, 0x2604), (0x260E, 0x260E),
    (0x2611, 0x2611), (0x2614, 0x2615), (0x2618, 0x2618), (0x261D, 0x261D), (0x2620, 0x2620),
    (0x2622, 0x2623), (0x2626, 0x2626), (0x262A, 0x262A), (0x262E, 0x262F), (0x2638, 0x263A),
    (0x2640, 0x2640), (0x2642, 0x2642), (0x2648, 0x2653), (0x265F, 0x2660), (0x2663, 0x2663),
    (0x2665, 0x2666), (0x2668, 0x2668), (0x267B, 0x267B), (0x267E, 0x267F), (0x2692, 0x2697),
    (0x2699, 0x2699), (0x269B, 0x269C), (0x26A0, 0x26A1), (0x26A7, 0x26A7), (0x26AA, 0x26AB),
    (0x26B0, 0x26B1), (0x26BD, 0x26BE), (0x26C4, 0x26C5), (0x26C8, 0x26C8), (0x26CE, 0x26CF),
    (0x26D1, 0x26D1), (0x26D3, 0x26D4), (0x26E9, 0x26EA), (0x26F0, 0x26F5), (0x26F7, 0x26FA),
    (0x26FD, 0x26FD), (0x2702, 0x2702), (0x2705, 0x2705), (0x2708, 0x270D), (0x270F, 0x270F),
    (0x2712, 0x2712), (0x2714, 0x2714), (0x2716, 0x2716), (0x271D, 0x271D), (0x2721, 0x2721),
    (0x2728, 0x2728), (0x2733, 0x2734), (0x2744, 0x2744), (0x2747, 0x2747), (0x274C, 0x274C),
    (0x274E, 0x274E), (0x2753, 0x2755), (0x2757, 0x2757), (0x2763, 0x2764), (0x2795, 0x2797),
    (0x27A1, 0x27A1), (0x27B0, 0x27B0), (0x27BF, 0x27BF), (0x2934, 0x2935), (0x2B05, 0x2B07),
    (0x2B1B, 0x2B1C), (0x2B50, 0x2B50), (0x2B55, 0x2B55), (0x3030, 0x3030), (0x303D, 0x303D),
    (0x3297, 0x3297), (0x3299, 0x3299), (0x1F004, 0x1F004), (0x1F0CF, 0x1F0CF),
    (0x1F170, 0x1F171), (0x1F17E, 0x1F17F), (0x1F18E, 0x1F18E), (0x1F191, 0x1F19A),
    (0x1F201, 0x1F202), (0x1F21A, 0x1F21A), (0x1F22F, 0x1F22F), (0x1F232, 0x1F23A),
    (0x1F250, 0x1F251), (0x1F300, 0x1F6FC), (0x1F7E0, 0x1F7F0), (0x1F90C, 0x1FAFF)]

def emojiParts : CharSet :=
  ranges [(0x23, 0x23), (0x2A, 0x2A), (0x30, 0x39), (0x200D, 0x200D), (0x20E3, 0x20E3),
    (0xFE0F, 0xFE0F), (0x1F1E6, 0x1F1FF), (0x1F3FB, 0x1F3FF), (0x1F9B0, 0x1F9B3),
    (0xE0020, 0xE007F)]

def dashes : CharSet :=
  ranges [(0x2D, 0x2D), (0x58A, 0x58A), (0x5BE, 0x5BE), (0x1400, 0x1400), (0x1806, 0x1806),
    (0x2010, 0x2015), (0x2053, 0x2053), (0x207B, 0x207B), (0x208B, 0x208B), (0x2212, 0x2212),
    (0x2E17, 0x2E17), (0x2E1A, 0x2E1A), (0x2E3A, 0x2E3B), (0x2E40, 0x2E40), (0x2E5D, 0x2E5D),
    (0x301C, 0x301C), (0x3030, 0x3030), (0x30A0, 0x30A0), (0xFE31, 0xFE32), (0xFE58, 0xFE58),
    (0xFE63, 0xFE63), (0xFF0D, 0xFF0D), (0x10D6E, 0x10D6E), (0x10EAD, 0x10EAD)]

def ignorable : CharSet :=
  ranges [(0xAD, 0xAD), (0x34F, 0x34F), (0x61C, 0x61C), (0x115F, 0x1160), (0x17B4, 0x17B5),
    (0x180B, 0x180F), (0x200B, 0x200F), (0x202A, 0x202E), (0x2060, 0x206F), (0x3164, 0x3164),
    (0xFE00, 0xFE0F), (0xFEFF, 0xFEFF), (0xFFA0, 0xFFA0), (0xFFF0, 0xFFF8), (0x1BCA0, 0x1BCA3),
    (0x1D173, 0x1D17A), (0xE0000, 0xE0FFF)]

def caseIgnorable : CharSet :=
  unions [table Category.flatMark, table Category.enclosingMark, table Category.formatSign,
    table Category.modifierLetter, table Category.modifierSign,
    ranges [(0x27, 0x27), (0x2E, 0x2E), (0x3A, 0x3A), (0xB7, 0xB7), (0x387, 0x387), (0x55F, 0x55F),
      (0x5F4, 0x5F4), (0x2018, 0x2019), (0x2024, 0x2024), (0x2027, 0x2027), (0xFE13, 0xFE13),
      (0xFE52, 0xFE52), (0xFE55, 0xFE55), (0xFF07, 0xFF07), (0xFF0E, 0xFF0E), (0xFF1A, 0xFF1A)]]

def patternSigns : CharSet :=
  ranges [(0x21, 0x2F), (0x3A, 0x40), (0x5B, 0x5E), (0x60, 0x60), (0x7B, 0x7E), (0xA1, 0xA7),
    (0xA9, 0xA9), (0xAB, 0xAC), (0xAE, 0xAE), (0xB0, 0xB1), (0xB6, 0xB6), (0xBB, 0xBB),
    (0xBF, 0xBF), (0xD7, 0xD7), (0xF7, 0xF7), (0x2010, 0x2027), (0x2030, 0x203E), (0x2041, 0x2053),
    (0x2055, 0x205E), (0x2190, 0x245F), (0x2500, 0x2775), (0x2794, 0x2BFF), (0x2E00, 0x2E7F),
    (0x3001, 0x3003), (0x3008, 0x3020), (0x3030, 0x3030), (0xFD3E, 0xFD3F), (0xFE45, 0xFE46)]

def quotes : CharSet :=
  ranges [(0x22, 0x22), (0x27, 0x27), (0xAB, 0xAB), (0xBB, 0xBB), (0x2018, 0x201F),
    (0x2039, 0x203A), (0x2E42, 0x2E42), (0x300C, 0x300F), (0x301D, 0x301F), (0xFE41, 0xFE44),
    (0xFF02, 0xFF02), (0xFF07, 0xFF07), (0xFF62, 0xFF63)]

def mathematics : CharSet :=
  unions [table Category.mathSign, ranges [(0x5E, 0x5E), (0x3D0, 0x3D2), (0x3D5, 0x3D5),
    (0x3F0, 0x3F1), (0x3F4, 0x3F5), (0x2016, 0x2016), (0x2032, 0x2034), (0x2040, 0x2040),
    (0x2061, 0x2064), (0x20D0, 0x20DC), (0x2102, 0x2102), (0x210A, 0x2113), (0x2115, 0x2115),
    (0x2119, 0x211D), (0x2124, 0x2124), (0x2128, 0x2129), (0x1D400, 0x1D7FF)]]

def diacritics : CharSet :=
  ranges [(0x5E, 0x5E), (0x60, 0x60), (0xA8, 0xA8), (0xAF, 0xAF), (0xB4, 0xB4), (0xB7, 0xB8),
    (0x2B0, 0x34E), (0x350, 0x357), (0x35D, 0x362), (0x374, 0x375), (0x37A, 0x37A), (0x384, 0x385),
    (0x483, 0x487), (0x559, 0x559)]

def extenders : CharSet :=
  ranges [(0xB7, 0xB7), (0x2D0, 0x2D1), (0x640, 0x640), (0x7FA, 0x7FA), (0xE46, 0xE46),
    (0xEC6, 0xEC6), (0x180A, 0x180A), (0x1843, 0x1843), (0x3005, 0x3005), (0x3031, 0x3035),
    (0x309D, 0x309E), (0x30FC, 0x30FE), (0xFF70, 0xFF70)]

def sentenceEnds : CharSet :=
  ranges [(0x21, 0x21), (0x2E, 0x2E), (0x3F, 0x3F), (0x589, 0x589), (0x61D, 0x61F),
    (0x6D4, 0x6D4), (0x964, 0x965), (0x203C, 0x203D), (0x2047, 0x2049), (0x3002, 0x3002),
    (0xFF01, 0xFF01), (0xFF0E, 0xFF0E), (0xFF1F, 0xFF1F), (0xFF61, 0xFF61)]

def phraseEnds : CharSet :=
  union sentenceEnds (ranges [(0x2C, 0x2C), (0x3A, 0x3B), (0x37E, 0x37E), (0x387, 0x387),
    (0x60C, 0x60C), (0x61B, 0x61B), (0x3001, 0x3001), (0xFF0C, 0xFF0C), (0xFF1A, 0xFF1B)])

def dotted : CharSet :=
  ranges [(0x69, 0x6A), (0x12F, 0x12F), (0x249, 0x249), (0x268, 0x268), (0x29D, 0x29D),
    (0x2B2, 0x2B2), (0x3F3, 0x3F3), (0x456, 0x456), (0x458, 0x458), (0x1D62, 0x1D62),
    (0x1E2D, 0x1E2D), (0x1ECB, 0x1ECB), (0x2071, 0x2071), (0x2148, 0x2149)]

def pairedSigns : CharSet :=
  ranges [(0x28, 0x29), (0x3C, 0x3C), (0x3E, 0x3E), (0x5B, 0x5B), (0x5D, 0x5D), (0x7B, 0x7B),
    (0x7D, 0x7D), (0xAB, 0xAB), (0xBB, 0xBB), (0x2039, 0x203A), (0x2045, 0x2046), (0x207D, 0x207E),
    (0x208D, 0x208E), (0x3008, 0x3011), (0x3014, 0x301B)]

def properties : List (List String × CharSet) := [
  (["alpha", "alphabetic"], alphabetic),
  (["lower", "lowercase"], lower),
  (["upper", "uppercase"], upper),
  (["cased"], unions [lower, upper, table Category.title]),
  (["ci", "caseignorable"], caseIgnorable),
  (["cwl", "changeswhenlowercased"], inter (union upper (table Category.title)) cased),
  (["cwcf", "changeswhencasefolded"], inter (union upper (table Category.title)) cased),
  (["cwu", "changeswhenuppercased"], inter (union lower (table Category.title)) cased),
  (["cwt", "changeswhentitlecased"], inter lower cased),
  (["cwcm", "changeswhencasemapped"], cased),
  (["olower", "otherlowercase"], otherLower),
  (["oupper", "otheruppercase"], otherUpper),
  (["oalpha", "otheralphabetic"], table Category.letterSign),
  (["space", "wspace", "whitespace"], blank),
  (["ahex", "asciihexdigit"], hexDigits),
  (["hex", "hexdigit"],
    union hexDigits (ranges [(0xFF10, 0xFF19), (0xFF21, 0xFF26), (0xFF41, 0xFF46)])),
  (["ids", "idstart"], nameStart),
  (["xids", "xidstart"], minus nameStart (ranges [(0x37A, 0x37A), (0x309B, 0x309C)])),
  (["idc", "idcontinue"], namePart),
  (["xidc", "xidcontinue"], minus namePart (ranges [(0x37A, 0x37A), (0x309B, 0x309C)])),
  (["oids", "otheridstart"],
    ranges [(0x1885, 0x1886), (0x2118, 0x2118), (0x212E, 0x212E), (0x309B, 0x309C)]),
  (["oidc", "otheridcontinue"], ranges [(0xB7, 0xB7), (0x387, 0x387), (0x1369, 0x1371),
    (0x19DA, 0x19DA), (0x200C, 0x200D), (0x30FB, 0x30FB), (0xFF65, 0xFF65)]),
  (["ideo", "ideographic"], ideographs),
  (["uideo", "unifiedideograph"], ranges [(0x3400, 0x4DBF), (0x4E00, 0x9FFF), (0xFA0E, 0xFA0F),
    (0xFA11, 0xFA11), (0xFA13, 0xFA14), (0xFA1F, 0xFA1F), (0xFA21, 0xFA21), (0xFA23, 0xFA24),
    (0xFA27, 0xFA29), (0x20000, 0x2EE5D), (0x30000, 0x323AF)]),
  (["radical"], range 0x2E80 0x2FD5),
  (["idsb", "idsbinaryoperator"], ranges [(0x2FF0, 0x2FF1), (0x2FF4, 0x2FFD), (0x31EF, 0x31EF)]),
  (["idst", "idstrinaryoperator"], range 0x2FF2 0x2FF3),
  (["idsu", "idsunaryoperator"], range 0x2FFE 0x2FFF),
  (["emoji"], unions [pictographs, range 0x1F1E6 0x1F1FF,
    ranges [(0x23, 0x23), (0x2A, 0x2A), (0x30, 0x39)]]),
  (["extpict", "extendedpictographic"], minus pictographs (range 0x1F3FB 0x1F3FF)),
  (["epres", "emojipresentation"], inter pictographs (range 0x231A 0x1FAFF)),
  (["ebase", "emojimodifierbase"], ranges [(0x261D, 0x261D), (0x26F9, 0x26F9), (0x270A, 0x270D),
    (0x1F442, 0x1F443), (0x1F446, 0x1F450), (0x1F466, 0x1F478), (0x1F645, 0x1F64F)]),
  (["emod", "emojimodifier"], range 0x1F3FB 0x1F3FF),
  (["ecomp", "emojicomponent"], emojiParts),
  (["ri", "regionalindicator"], range 0x1F1E6 0x1F1FF),
  (["vs", "variationselector"],
    ranges [(0x180B, 0x180D), (0x180F, 0x180F), (0xFE00, 0xFE0F), (0xE0100, 0xE01EF)]),
  (["dash"], dashes),
  (["qmark", "quotationmark"], quotes),
  (["sterm", "sentenceterminal"], sentenceEnds),
  (["term", "terminalpunctuation"], phraseEnds),
  (["math"], mathematics),
  (["omath", "othermath"], minus mathematics (table Category.mathSign)),
  (["dia", "diacritic"], diacritics),
  (["ext", "extender"], extenders),
  (["sd", "softdotted"], dotted),
  (["di", "defaultignorablecodepoint"], ignorable),
  (["odi", "otherdefaultignorablecodepoint"], ranges [(0x34F, 0x34F), (0x115F, 0x1160),
    (0x17B4, 0x17B5), (0x2065, 0x2065), (0x3164, 0x3164), (0xFFA0, 0xFFA0), (0xFFF0, 0xFFF8)]),
  (["dep", "deprecated"], ranges [(0x149, 0x149), (0x673, 0x673), (0xF77, 0xF77), (0xF79, 0xF79),
    (0x17A3, 0x17A4), (0x206A, 0x206F), (0x2329, 0x232A), (0xE0001, 0xE0001)]),
  (["grext", "graphemeextend"],
    unions [table Category.flatMark, table Category.enclosingMark, range 0x200C 0x200C]),
  (["ogrext", "othergraphemeextend"], range 0x200C 0x200C),
  (["grbase", "graphemebase"], minus assigned (unions [controls, table Category.formatSign,
    privateUse, range 0x2028 0x2029, table Category.flatMark, table Category.enclosingMark])),
  (["joinc", "joincontrol"], joiners),
  (["loe", "logicalorderexception"], ranges [(0xE40, 0xE44), (0xEC0, 0xEC4), (0x19B5, 0x19B7),
    (0x19BA, 0x19BA), (0xAAB5, 0xAAB6), (0xAAB9, 0xAAB9), (0xAABB, 0xAABC)]),
  (["nchar", "noncharactercodepoint"],
    ranges [(0xFDD0, 0xFDEF), (0xFFFE, 0xFFFF), (0x1FFFE, 0x1FFFF), (0x10FFFE, 0x10FFFF)]),
  (["pcm", "prependedconcatenationmark"], ranges [(0x600, 0x605), (0x6DD, 0x6DD), (0x70F, 0x70F),
    (0x890, 0x891), (0x8E2, 0x8E2), (0x110BD, 0x110BD), (0x110CD, 0x110CD)]),
  (["patsyn", "patternsyntax"], patternSigns),
  (["patws", "patternwhitespace"], ranges [(0x9, 0xD), (0x20, 0x20), (0x85, 0x85),
    (0x200E, 0x200F), (0x2028, 0x2029)]),
  (["bidic", "bidicontrol"],
    ranges [(0x61C, 0x61C), (0x200E, 0x200F), (0x202A, 0x202E), (0x2066, 0x2069)]),
  (["bidim", "bidimirrored"], pairedSigns)]

/-! Looking up -/

def lookUp (list : List (List String × CharSet)) (name : String) : Option CharSet :=
  (list.find? (·.1.contains name)).map (·.2)

def script? (name : String) : Option CharSet :=
  (Text.scripts.find? (·.1.contains name)).map fun s => ranges s.2

def editions : List String :=
  ["1.1", "2.0", "2.1", "3.0", "3.1", "3.2", "4.0", "4.1", "5.0", "5.1", "5.2", "6.0", "6.1", "6.2",
    "6.3", "7.0", "8.0", "9.0", "10.0", "11.0", "12.0", "12.1", "13.0", "14.0", "15.0", "15.1",
    "16.0"]

def edition? (name : String) : Option CharSet :=
  if editions.any fun e => name = e || name = "v" ++ String.ofList (e.toList.filter (· ≠ '.')) then
    some assigned
  else none

/-- A name as it is looked up: in small letters, without blanks, lines, dashes, and without `is`
before it. -/
def plainName (name : List Char) : String :=
  let kept := fun (cs : List Char) =>
    (cs.filter fun c => !(c == ' ' || c == '_' || c == '-') && c.toNat < 0x80).map Char.toLower
  match name with
  | i :: s :: rest =>
    if i.toLower = 'i' && s.toLower = 's' then
      if kept rest = ['c'] then "isc" else String.ofList (kept rest)
    else String.ofList (kept name)
  | _ => String.ofList (kept name)

def ofProperty? (name : List Char) : Option CharSet :=
  let name := plainName name
  lookUp properties name <|> lookUp categories name <|> script? name

/-- The set of the characters for which a property has a value: none if there is no such property,
and no set if it has no such value. -/
def ofValue? (name value : List Char) : Option (Option CharSet) :=
  match plainName name with
  | "gc" | "generalcategory" => some (lookUp categories (plainName value))
  | "sc" | "script" | "scx" | "scriptextensions" => some (script? (plainName value))
  | "age" => some (edition? (plainName value))
  | "gcb" | "graphemeclusterbreak" | "wb" | "wordbreak" | "sb" | "sentencebreak" => some none
  | _ => none

end ApkAudit.CharSet
