import BrainfuckWasm.Text.LetterCase
import BrainfuckWasm.Text.Printable

/-!
# Letters of domain names

A name of a host may hold lowercase ASCII letters, digits, hyphens, and outside ASCII the lowercase
letters, marks and digits of living scripts, but no symbols, no punctuation and no compatibility
forms. Letters of one script are taken in upper case instead. The tables list ranges by first and
last code point, in increasing order; in the first one only printable characters count. Letters of
the second one are too new for any other property of them to be known.
-/

namespace BrainfuckWasm.Text

/-- The ranges of letters, marks and digits. -/
def domainRanges : List (Nat × Nat) :=
  [(0x2D, 0x2D), (0x30, 0x39), (0x61, 0x7A), (0xDF, 0xF6), (0xF8, 0x131), (0x135, 0x13E),
   (0x142, 0x148), (0x14B, 0x17E), (0x180, 0x1C3), (0x1CE, 0x1F0), (0x1F5, 0x2AF), (0x2B9, 0x2C1),
   (0x2C6, 0x2D1), (0x2EC, 0x2EC), (0x2EE, 0x2EE), (0x300, 0x342), (0x346, 0x34E), (0x350, 0x373),
   (0x377, 0x377), (0x37B, 0x37D), (0x390, 0x3CE), (0x3D7, 0x3EF), (0x3F3, 0x3F3), (0x3F8, 0x481),
   (0x483, 0x487), (0x48B, 0x559), (0x560, 0x586), (0x588, 0x588), (0x591, 0x5BD), (0x5BF, 0x5BF),
   (0x5C1, 0x5C2), (0x5C4, 0x5C5), (0x5C7, 0x5F2), (0x610, 0x61A), (0x620, 0x63F), (0x641, 0x65F),
   (0x66E, 0x674), (0x679, 0x6D3), (0x6D5, 0x6DC), (0x6DF, 0x6E8), (0x6EA, 0x6EF), (0x6FA, 0x6FF),
   (0x710, 0x7F5), (0x7FD, 0x7FD), (0x800, 0x82D), (0x840, 0x85B), (0x860, 0x887), (0x889, 0x963),
   (0x966, 0x96F), (0x971, 0x9F1), (0x9FC, 0x9FC), (0x9FE, 0xA75), (0xA81, 0xAEF), (0xAF9, 0xB6F),
   (0xB71, 0xB71), (0xB82, 0xBEF), (0xC00, 0xC6F), (0xC80, 0xC83), (0xC85, 0xD4E), (0xD54, 0xD57),
   (0xD5F, 0xD6F), (0xD7A, 0xDF3), (0xE01, 0xE32), (0xE34, 0xE3A), (0xE40, 0xE4E), (0xE50, 0xE59),
   (0xE81, 0xEB2), (0xEB4, 0xED9), (0xEDE, 0xF00), (0xF0B, 0xF0B), (0xF18, 0xF19), (0xF20, 0xF29),
   (0xF35, 0xF35), (0xF37, 0xF37), (0xF39, 0xF39), (0xF3E, 0xF74), (0xF7A, 0xF84), (0xF86, 0xFBC),
   (0xFC6, 0xFC6), (0x1000, 0x1049), (0x1050, 0x109D), (0x10D0, 0x10FA), (0x10FD, 0x10FF),
   (0x1200, 0x135F), (0x1380, 0x138F), (0x1401, 0x166C), (0x166F, 0x169A), (0x16A0, 0x16EA),
   (0x16F1, 0x1734), (0x1740, 0x17B3), (0x17B6, 0x17D3), (0x17D7, 0x17D7), (0x17DC, 0x17E9),
   (0x1810, 0x193B), (0x1946, 0x19D9), (0x1A00, 0x1A1B), (0x1A20, 0x1A99), (0x1AA7, 0x1AA7),
   (0x1AB0, 0x1ABD), (0x1ABF, 0x1B59), (0x1B6B, 0x1B73), (0x1B80, 0x1BF3), (0x1C00, 0x1C37),
   (0x1C40, 0x1C7D), (0x1CD0, 0x1CD2), (0x1CD4, 0x1D2B), (0x1D2F, 0x1D2F), (0x1D3B, 0x1D3B),
   (0x1D4E, 0x1D4E), (0x1D6B, 0x1D77), (0x1D79, 0x1D9A), (0x1DC0, 0x1E99), (0x1E9C, 0x1F7C),
   (0x1FB0, 0x1FB1), (0x1FB6, 0x1FB6), (0x1FC6, 0x1FC6), (0x1FD0, 0x1FD7), (0x1FE0, 0x1FE7),
   (0x1FF6, 0x1FF6), (0x214E, 0x214E), (0x2184, 0x2184), (0x2C30, 0x2C7B), (0x2C81, 0x2CE4),
   (0x2CEC, 0x2CF3), (0x2D00, 0x2D67), (0x2D7F, 0x2DFF), (0x2E2F, 0x2E2F), (0x3005, 0x3007),
   (0x302A, 0x302D), (0x303C, 0x303C), (0x3041, 0x309A), (0x309D, 0x309E), (0x30A1, 0x30FA),
   (0x30FC, 0x30FE), (0x3105, 0x312F), (0x31A0, 0x31BF), (0x31F0, 0x31FF), (0x3400, 0x4DBF),
   (0x4E00, 0xA48C), (0xA4D0, 0xA4FD), (0xA500, 0xA60C), (0xA610, 0xA66F), (0xA674, 0xA67D),
   (0xA67F, 0xA69B), (0xA69E, 0xA6E5), (0xA6F0, 0xA6F1), (0xA717, 0xA71F), (0xA723, 0xA76F),
   (0xA771, 0xA788), (0xA78C, 0xA7D9), (0xA7F6, 0xA7F7), (0xA7FA, 0xA827), (0xA82C, 0xA82C),
   (0xA840, 0xA873), (0xA880, 0xA8C5), (0xA8D0, 0xA8F7), (0xA8FB, 0xA8FB), (0xA8FD, 0xA92D),
   (0xA930, 0xA953), (0xA980, 0xA9C0), (0xA9CF, 0xA9D9), (0xA9E0, 0xAA59), (0xAA60, 0xAA76),
   (0xAA7A, 0xAADD), (0xAAE0, 0xAAEF), (0xAAF2, 0xAB5A), (0xAB60, 0xAB68), (0xABC0, 0xABEA),
   (0xABEC, 0xD7A3), (0xFA0E, 0xFA29), (0xFB1E, 0xFB1E), (0xFE20, 0xFE2F), (0xFE73, 0xFE73),
   (0x10000, 0x100FA), (0x101FD, 0x102E0), (0x10300, 0x1031F), (0x1032D, 0x10340),
   (0x10342, 0x10349), (0x10350, 0x1039D), (0x103A0, 0x103CF), (0x10428, 0x10563),
   (0x10597, 0x10780), (0x10800, 0x10855), (0x10860, 0x10876), (0x10880, 0x1089E),
   (0x108E0, 0x108F5), (0x10900, 0x10915), (0x10920, 0x10939), (0x10980, 0x109B7),
   (0x109BE, 0x109BF), (0x10A00, 0x10A3F), (0x10A60, 0x10A7C), (0x10A80, 0x10A9C),
   (0x10AC0, 0x10AC7), (0x10AC9, 0x10AE6), (0x10B00, 0x10B35), (0x10B40, 0x10B55),
   (0x10B60, 0x10B72), (0x10B80, 0x10B91), (0x10C00, 0x10CF2), (0x10D00, 0x10D39),
   (0x10E80, 0x10EAC), (0x10EB0, 0x10F1C), (0x10F27, 0x10F50), (0x10F70, 0x10F85),
   (0x10FB0, 0x10FC4), (0x10FE0, 0x11046), (0x11066, 0x110BA), (0x110C2, 0x1113F),
   (0x11144, 0x11173), (0x11176, 0x111C4), (0x111C9, 0x111CC), (0x111CE, 0x111DA),
   (0x111DC, 0x111DC), (0x11200, 0x11237), (0x1123E, 0x112A8), (0x112B0, 0x1144A),
   (0x11450, 0x11459), (0x1145E, 0x114C5), (0x114C7, 0x115C0), (0x115D8, 0x11640),
   (0x11644, 0x11659), (0x11680, 0x116B8), (0x116C0, 0x11739), (0x11740, 0x1183A),
   (0x118C0, 0x118E9), (0x118FF, 0x11943), (0x11950, 0x119E1), (0x119E3, 0x11A3E),
   (0x11A47, 0x11A99), (0x11A9D, 0x11A9D), (0x11AB0, 0x11C40), (0x11C50, 0x11C59),
   (0x11C72, 0x11EF6), (0x11FB0, 0x11FB0), (0x12000, 0x12399), (0x12480, 0x12FF0),
   (0x13000, 0x16A69), (0x16A70, 0x16AF4), (0x16B00, 0x16B36), (0x16B40, 0x16B43),
   (0x16B50, 0x16B59), (0x16B63, 0x16E7F), (0x16F00, 0x16FE1), (0x16FE3, 0x1BC99),
   (0x1BC9D, 0x1BC9E), (0x1CF00, 0x1CF46), (0x1DA00, 0x1DA36), (0x1DA3B, 0x1DA6C),
   (0x1DA75, 0x1DA75), (0x1DA84, 0x1DA84), (0x1DA9B, 0x1E14E), (0x1E290, 0x1E2F9),
   (0x1E7E0, 0x1E8C4), (0x1E8D0, 0x1E959), (0x20000, 0x3134A)]

/-- The ranges of letters that are not known otherwise. -/
def laterRanges : List (Nat × Nat) :=
  [(0x88F, 0x88F), (0x897, 0x897), (0xC5C, 0xC5C), (0xCDC, 0xCDC), (0xCF3, 0xCF3), (0xECE, 0xECE),
   (0x1ACF, 0x1ADD), (0x1AE0, 0x1AEB), (0x1C8A, 0x1C8A), (0xA7CD, 0xA7CD), (0xA7CF, 0xA7CF),
   (0xA7DB, 0xA7DB), (0x105C0, 0x105F3), (0x10940, 0x10959), (0x10D40, 0x10D4F), (0x10D69, 0x10D6D),
   (0x10D6F, 0x10D85), (0x10EC2, 0x10EC7), (0x10EFA, 0x10EFF), (0x1123F, 0x11241),
   (0x11380, 0x11389), (0x1138B, 0x1138B), (0x1138E, 0x1138E), (0x11390, 0x113B5),
   (0x113B7, 0x113C0), (0x113C2, 0x113C2), (0x113C5, 0x113C5), (0x113C7, 0x113CA),
   (0x113CC, 0x113D3), (0x113E1, 0x113E2), (0x116D0, 0x116E3), (0x11B60, 0x11B67),
   (0x11BC0, 0x11BE0), (0x11BF0, 0x11BF9), (0x11DB0, 0x11DDB), (0x11DE0, 0x11DE9),
   (0x11F00, 0x11F10), (0x11F12, 0x11F3A), (0x11F3E, 0x11F42), (0x11F50, 0x11F5A),
   (0x1342F, 0x1342F), (0x13440, 0x13455), (0x13460, 0x143FA), (0x16100, 0x16139),
   (0x16D40, 0x16D6C), (0x16D70, 0x16D79), (0x16EBB, 0x16ED3), (0x16FF2, 0x16FF3),
   (0x187F8, 0x187FF), (0x18CFF, 0x18D1E), (0x18D80, 0x18DF2), (0x1B132, 0x1B132),
   (0x1B155, 0x1B155), (0x1DF25, 0x1DF2A), (0x1E08F, 0x1E08F), (0x1E4D0, 0x1E4F9),
   (0x1E5D0, 0x1E5FA), (0x1E6C0, 0x1E6DE), (0x1E6E0, 0x1E6F5), (0x1E6FE, 0x1E6FF),
   (0x2B739, 0x2B73F), (0x2CEA2, 0x2CEAD), (0x2EBF0, 0x2EE5D), (0x31350, 0x33479)]

/-- The range of the letters that are taken in upper case. -/
def upperRange : List (Nat × Nat) := [(0x13A0, 0x13F5)]

/-- Whether a code point is a letter about which nothing else is known. -/
def isUnfamiliar (n : Nat) : Bool :=
  !isPrintableAt n && inRanges laterRanges n

/-- Whether a code point may stand anywhere in the name of a host. -/
def isDomainLetter (n : Nat) : Bool :=
  (isPrintableAt n && inRanges domainRanges n && lowerNumber n = n) || inRanges upperRange n ||
    isUnfamiliar n

end BrainfuckWasm.Text
