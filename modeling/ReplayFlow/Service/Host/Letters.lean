import ReplayFlow.Text.CodeRange
import ReplayFlow.Text.WordChar

/-!
The characters of names of hosts above ASCII: small letters, digits and marks that
stand for nothing but themselves.
-/

namespace ReplayFlow.Service.Host

/-- The letters and numbers that are other ways to write some letters and numbers. -/
def variantRanges : List (Nat × Nat) := [
  (0xAA, 0xBE), (0x133, 0x133), (0x140, 0x140), (0x149, 0x149), (0x17F, 0x17F), (0x1C6, 0x1CC),
  (0x1F3, 0x1F3), (0x2B0, 0x2B8), (0x2E0, 0x2E4), (0x374, 0x374), (0x37A, 0x37A), (0x3D0, 0x3D6),
  (0x3F0, 0x3F2), (0x3F5, 0x3F5), (0x587, 0x587), (0x640, 0x640), (0x660, 0x669), (0x675, 0x678),
  (0x6F0, 0x6F9), (0x7FA, 0x7FA), (0x958, 0x95F), (0x9DC, 0x9DF), (0x9F4, 0x9F9), (0xA33, 0xA33),
  (0xA36, 0xA36), (0xA59, 0xA5B), (0xA5E, 0xA5E), (0xB5C, 0xB5D), (0xB72, 0xB77), (0xBF0, 0xBF2),
  (0xC78, 0xC7E), (0xD58, 0xD5E), (0xD70, 0xD78), (0xE33, 0xE33), (0xEB3, 0xEB3), (0xEDC, 0xEDD),
  (0xF2A, 0xF33), (0xF43, 0xF43), (0xF4D, 0xF4D), (0xF52, 0xF52), (0xF57, 0xF57), (0xF5C, 0xF5C),
  (0xF69, 0xF69), (0x10FC, 0x10FC), (0x1100, 0x11FF), (0x1369, 0x137C), (0x13F8, 0x13FD),
  (0x16EE, 0x16F0), (0x17F0, 0x17F9), (0x19DA, 0x19DA), (0x1C80, 0x1C88), (0x1D2C, 0x1D2E),
  (0x1D30, 0x1D3A), (0x1D3C, 0x1D4D), (0x1D4F, 0x1D6A), (0x1D78, 0x1D78), (0x1D9B, 0x1DBF),
  (0x1E9A, 0x1E9B), (0x1F71, 0x1F71), (0x1F73, 0x1F73), (0x1F75, 0x1F75), (0x1F77, 0x1F77),
  (0x1F79, 0x1F79), (0x1F7B, 0x1F7B), (0x1F7D, 0x1FA7), (0x1FB2, 0x1FB4), (0x1FB7, 0x1FC4),
  (0x1FC7, 0x1FC7), (0x1FD3, 0x1FD3), (0x1FE3, 0x1FE3), (0x1FF2, 0x1FF4), (0x1FF7, 0x2149),
  (0x2150, 0x2182), (0x2185, 0x2189), (0x2460, 0x24FF), (0x2776, 0x2793), (0x2C7C, 0x2C7D),
  (0x2CFD, 0x2CFD), (0x2D6F, 0x2D6F), (0x3021, 0x303B), (0x309F, 0x309F), (0x30FF, 0x30FF),
  (0x3131, 0x3195), (0x3220, 0x32BF), (0xA69C, 0xA69D), (0xA6E6, 0xA6EF), (0xA770, 0xA770),
  (0xA7F2, 0xA7F4), (0xA7F8, 0xA7F9), (0xA830, 0xA835), (0xA960, 0xA97C), (0xAB5C, 0xAB5F),
  (0xAB69, 0xABBF), (0xD7B0, 0xD7FB), (0xF900, 0xFA0D), (0xFA10, 0xFA10), (0xFA12, 0xFA12),
  (0xFA15, 0xFA1E), (0xFA20, 0xFA20), (0xFA22, 0xFA22), (0xFA25, 0xFA26), (0xFA2A, 0xFE72),
  (0xFE74, 0xFFDC), (0x10107, 0x1018B), (0x102E1, 0x102FB), (0x10320, 0x10323), (0x10341, 0x10341),
  (0x1034A, 0x1034A), (0x103D1, 0x103D5), (0x10781, 0x107BA), (0x10858, 0x1085F),
  (0x10879, 0x1087F), (0x108A7, 0x108AF), (0x108FB, 0x108FF), (0x10916, 0x1091B),
  (0x109BC, 0x109BD), (0x109C0, 0x109FF), (0x10A40, 0x10A48), (0x10A7D, 0x10A7E),
  (0x10A9D, 0x10A9F), (0x10AEB, 0x10AEF), (0x10B58, 0x10B5F), (0x10B78, 0x10B7F),
  (0x10BA9, 0x10BAF), (0x10CFA, 0x10CFF), (0x10E60, 0x10E7E), (0x10F1D, 0x10F26),
  (0x10F51, 0x10F54), (0x10FC5, 0x10FCB), (0x11052, 0x11065), (0x111E1, 0x111F4),
  (0x1173A, 0x1173B), (0x118EA, 0x118F2), (0x11C5A, 0x11C6C), (0x11FC0, 0x11FD4),
  (0x12400, 0x1246E), (0x16B5B, 0x16B61), (0x16E80, 0x16E96), (0x1D2E0, 0x1D7FF),
  (0x1E8C7, 0x1E8CF), (0x1EC71, 0x1EEBB), (0x1F100, 0x1F10C), (0x1FBF0, 0x1FBF9),
  (0x2F800, 0x2FA1D)]

/-- The marks that combine with the letter before them. -/
def markRanges : List (Nat × Nat) := [
  (0x300, 0x33F), (0x342, 0x342), (0x346, 0x34E), (0x350, 0x36F), (0x483, 0x487), (0x591, 0x5BD),
  (0x5BF, 0x5BF), (0x5C1, 0x5C2), (0x5C4, 0x5C5), (0x5C7, 0x5C7), (0x610, 0x61A), (0x64B, 0x65F),
  (0x670, 0x670), (0x6D6, 0x6DC), (0x6DF, 0x6E4), (0x6E7, 0x6E8), (0x6EA, 0x6ED), (0x711, 0x711),
  (0x730, 0x74A), (0x7A6, 0x7B0), (0x7EB, 0x7F3), (0x7FD, 0x7FD), (0x816, 0x819), (0x81B, 0x823),
  (0x825, 0x827), (0x829, 0x82D), (0x859, 0x85B), (0x898, 0x89F), (0x8CA, 0x8E1), (0x8E3, 0x903),
  (0x93A, 0x93C), (0x93E, 0x94F), (0x951, 0x957), (0x962, 0x963), (0x981, 0x983), (0x9BC, 0x9BC),
  (0x9BE, 0x9C4), (0x9C7, 0x9C8), (0x9CB, 0x9CD), (0x9D7, 0x9D7), (0x9E2, 0x9E3), (0x9FE, 0x9FE),
  (0xA01, 0xA03), (0xA3C, 0xA3C), (0xA3E, 0xA42), (0xA47, 0xA48), (0xA4B, 0xA4D), (0xA51, 0xA51),
  (0xA70, 0xA71), (0xA75, 0xA75), (0xA81, 0xA83), (0xABC, 0xABC), (0xABE, 0xAC5), (0xAC7, 0xAC9),
  (0xACB, 0xACD), (0xAE2, 0xAE3), (0xAFA, 0xAFF), (0xB01, 0xB03), (0xB3C, 0xB3C), (0xB3E, 0xB44),
  (0xB47, 0xB48), (0xB4B, 0xB4D), (0xB55, 0xB57), (0xB62, 0xB63), (0xB82, 0xB82), (0xBBE, 0xBC2),
  (0xBC6, 0xBC8), (0xBCA, 0xBCD), (0xBD7, 0xBD7), (0xC00, 0xC04), (0xC3C, 0xC3C), (0xC3E, 0xC44),
  (0xC46, 0xC48), (0xC4A, 0xC4D), (0xC55, 0xC56), (0xC62, 0xC63), (0xC81, 0xC83), (0xCBC, 0xCBC),
  (0xCBE, 0xCC4), (0xCC6, 0xCC8), (0xCCA, 0xCCD), (0xCD5, 0xCD6), (0xCE2, 0xCE3), (0xD00, 0xD03),
  (0xD3B, 0xD3C), (0xD3E, 0xD44), (0xD46, 0xD48), (0xD4A, 0xD4D), (0xD57, 0xD57), (0xD62, 0xD63),
  (0xD81, 0xD83), (0xDCA, 0xDCA), (0xDCF, 0xDD4), (0xDD6, 0xDD6), (0xDD8, 0xDDF), (0xDF2, 0xDF3),
  (0xE31, 0xE31), (0xE34, 0xE3A), (0xE47, 0xE4E), (0xEB1, 0xEB1), (0xEB4, 0xEBC), (0xEC8, 0xECD),
  (0xF18, 0xF19), (0xF35, 0xF35), (0xF37, 0xF37), (0xF39, 0xF39), (0xF3E, 0xF3F), (0xF71, 0xF72),
  (0xF74, 0xF74), (0xF7A, 0xF80), (0xF82, 0xF84), (0xF86, 0xF87), (0xF8D, 0xF92), (0xF94, 0xF97),
  (0xF99, 0xF9C), (0xF9E, 0xFA1), (0xFA3, 0xFA6), (0xFA8, 0xFAB), (0xFAD, 0xFB8), (0xFBA, 0xFBC),
  (0xFC6, 0xFC6), (0x102B, 0x103E), (0x1056, 0x1059), (0x105E, 0x1060), (0x1062, 0x1064),
  (0x1067, 0x106D), (0x1071, 0x1074), (0x1082, 0x108D), (0x108F, 0x108F), (0x109A, 0x109D),
  (0x135D, 0x135F), (0x1712, 0x1715), (0x1732, 0x1734), (0x1752, 0x1753), (0x1772, 0x1773),
  (0x17B6, 0x17D3), (0x17DD, 0x17DD), (0x1885, 0x1886), (0x18A9, 0x18A9), (0x1920, 0x192B),
  (0x1930, 0x193B), (0x1A17, 0x1A1B), (0x1A55, 0x1A5E), (0x1A60, 0x1A7C), (0x1A7F, 0x1A7F),
  (0x1AB0, 0x1ABD), (0x1ABF, 0x1ACE), (0x1B00, 0x1B04), (0x1B34, 0x1B44), (0x1B6B, 0x1B73),
  (0x1B80, 0x1B82), (0x1BA1, 0x1BAD), (0x1BE6, 0x1BF3), (0x1C24, 0x1C37), (0x1CD0, 0x1CD2),
  (0x1CD4, 0x1CE8), (0x1CED, 0x1CED), (0x1CF4, 0x1CF4), (0x1CF7, 0x1CF9), (0x1DC0, 0x1DFF),
  (0x2CEF, 0x2CF1), (0x2D7F, 0x2D7F), (0x2DE0, 0x2DFF), (0x302A, 0x302D), (0x3099, 0x309A),
  (0xA66F, 0xA66F), (0xA674, 0xA67D), (0xA69E, 0xA69F), (0xA6F0, 0xA6F1), (0xA802, 0xA802),
  (0xA806, 0xA806), (0xA80B, 0xA80B), (0xA823, 0xA827), (0xA82C, 0xA82C), (0xA880, 0xA881),
  (0xA8B4, 0xA8C5), (0xA8E0, 0xA8F1), (0xA8FF, 0xA8FF), (0xA926, 0xA92D), (0xA947, 0xA953),
  (0xA980, 0xA983), (0xA9B3, 0xA9C0), (0xA9E5, 0xA9E5), (0xAA29, 0xAA36), (0xAA43, 0xAA43),
  (0xAA4C, 0xAA4D), (0xAA7B, 0xAA7D), (0xAAB0, 0xAAB0), (0xAAB2, 0xAAB4), (0xAAB7, 0xAAB8),
  (0xAABE, 0xAABF), (0xAAC1, 0xAAC1), (0xAAEB, 0xAAEF), (0xAAF5, 0xAAF6), (0xABE3, 0xABEA),
  (0xABEC, 0xABED), (0xFB1E, 0xFB1E), (0xFE20, 0xFE2F), (0x101FD, 0x101FD), (0x102E0, 0x102E0),
  (0x10376, 0x1037A), (0x10A01, 0x10A03), (0x10A05, 0x10A06), (0x10A0C, 0x10A0F),
  (0x10A38, 0x10A3A), (0x10A3F, 0x10A3F), (0x10AE5, 0x10AE6), (0x10D24, 0x10D27),
  (0x10EAB, 0x10EAC), (0x10F46, 0x10F50), (0x10F82, 0x10F85), (0x11000, 0x11002),
  (0x11038, 0x11046), (0x11070, 0x11070), (0x11073, 0x11074), (0x1107F, 0x11082),
  (0x110B0, 0x110BA), (0x110C2, 0x110C2), (0x11100, 0x11102), (0x11127, 0x11134),
  (0x11145, 0x11146), (0x11173, 0x11173), (0x11180, 0x11182), (0x111B3, 0x111C0),
  (0x111C9, 0x111CC), (0x111CE, 0x111CF), (0x1122C, 0x11237), (0x1123E, 0x1123E),
  (0x112DF, 0x112EA), (0x11300, 0x11303), (0x1133B, 0x1133C), (0x1133E, 0x11344),
  (0x11347, 0x11348), (0x1134B, 0x1134D), (0x11357, 0x11357), (0x11362, 0x11363),
  (0x11366, 0x1136C), (0x11370, 0x11374), (0x11435, 0x11446), (0x1145E, 0x1145E),
  (0x114B0, 0x114C3), (0x115AF, 0x115B5), (0x115B8, 0x115C0), (0x115DC, 0x115DD),
  (0x11630, 0x11640), (0x116AB, 0x116B7), (0x1171D, 0x1172B), (0x1182C, 0x1183A),
  (0x11930, 0x11935), (0x11937, 0x11938), (0x1193B, 0x1193E), (0x11940, 0x11940),
  (0x11942, 0x11943), (0x119D1, 0x119D7), (0x119DA, 0x119E0), (0x119E4, 0x119E4),
  (0x11A01, 0x11A0A), (0x11A33, 0x11A39), (0x11A3B, 0x11A3E), (0x11A47, 0x11A47),
  (0x11A51, 0x11A5B), (0x11A8A, 0x11A99), (0x11C2F, 0x11C36), (0x11C38, 0x11C3F),
  (0x11C92, 0x11CA7), (0x11CA9, 0x11CB6), (0x11D31, 0x11D36), (0x11D3A, 0x11D3A),
  (0x11D3C, 0x11D3D), (0x11D3F, 0x11D45), (0x11D47, 0x11D47), (0x11D8A, 0x11D8E),
  (0x11D90, 0x11D91), (0x11D93, 0x11D97), (0x11EF3, 0x11EF6), (0x16AF0, 0x16AF4),
  (0x16B30, 0x16B36), (0x16F4F, 0x16F4F), (0x16F51, 0x16F87), (0x16F8F, 0x16F92),
  (0x16FE4, 0x16FE4), (0x16FF0, 0x16FF1), (0x1BC9D, 0x1BC9E), (0x1CF00, 0x1CF2D),
  (0x1CF30, 0x1CF46), (0x1DA00, 0x1DA36), (0x1DA3B, 0x1DA6C), (0x1DA75, 0x1DA75),
  (0x1DA84, 0x1DA84), (0x1DA9B, 0x1DA9F), (0x1DAA1, 0x1DAAF), (0x1E000, 0x1E006),
  (0x1E008, 0x1E018), (0x1E01B, 0x1E021), (0x1E023, 0x1E024), (0x1E026, 0x1E02A),
  (0x1E130, 0x1E136), (0x1E2AE, 0x1E2AE), (0x1E2EC, 0x1E2EF), (0x1E8D0, 0x1E8D6),
  (0x1E944, 0x1E94A)]

/-- The marks that take the vowel from the letter before them. -/
def vowelKillers : List Nat := [
  0x94D, 0x9CD, 0xA4D, 0xACD, 0xB4D, 0xBCD, 0xC4D, 0xCCD, 0xD3B, 0xD3C, 0xD4D, 0xDCA, 0xE3A, 0xEBA,
  0xF84, 0x1039, 0x103A, 0x1714, 0x1715, 0x1734, 0x17D2, 0x1A60, 0x1B44, 0x1BAA, 0x1BAB, 0x1BF2,
  0x1BF3, 0x2D7F, 0xA806, 0xA82C, 0xA8C4, 0xA953, 0xA9C0, 0xAAF6, 0xABED, 0x10A3F, 0x11046, 0x11070,
  0x1107F, 0x110B9, 0x11133, 0x11134, 0x111C0, 0x11235, 0x112EA, 0x1134D, 0x11442, 0x114C2, 0x115BF,
  0x1163F, 0x116B6, 0x1172B, 0x11839, 0x1193D, 0x1193E, 0x119E0, 0x11A34, 0x11A47, 0x11A99, 0x11C3F,
  0x11D44, 0x11D45, 0x11D97]

/-- The scripts that are written from right to left. -/
def leftwardRanges : List (Nat × Nat) := [
  (0x5D0, 0x8C9), (0xFE73, 0xFE73), (0x10800, 0x10D23), (0x10E80, 0x10FF6), (0x1E800, 0x1E959)]

/-- The letters that lean to no side. -/
def neutralLetters : List Nat := [
  0x2B9, 0x2BA, 0x2C6, 0x2C7, 0x2C8, 0x2C9, 0x2CA, 0x2CB, 0x2CC, 0x2CD, 0x2CE, 0x2CF, 0x2EC, 0x2E2F,
  0xA67F, 0xA717, 0xA718, 0xA719, 0xA71A, 0xA71B, 0xA71C, 0xA71D, 0xA71E, 0xA71F, 0xA788]

/-- Marks, each with the letters that it makes one letter with. -/
def unions : List (Nat × List Nat) := [
  (0x300, [0x61, 0x65, 0x69, 0x6F, 0x75, 0xFC, 0x6E, 0x435, 0x438, 0x113, 0x14D, 0x77, 0xE2, 0x103,
    0xEA, 0xF4, 0x1A1, 0x1B0, 0x79, 0x1F00, 0x1F01, 0x1F10, 0x1F11, 0x1F20, 0x1F21, 0x1F30, 0x1F31,
    0x1F40, 0x1F41, 0x1F50, 0x1F51, 0x1F60, 0x1F61, 0x3B1, 0x3B5, 0x3B7, 0x3B9, 0x3BF, 0x3C5,
    0x3C9, 0x3CA, 0x3CB]),
  (0x301, [0x61, 0x65, 0x69, 0x6F, 0x75, 0x79, 0x63, 0x6C, 0x6E, 0x72, 0x73, 0x7A, 0xFC, 0x67,
    0xE5, 0xE6, 0xF8, 0x3CA, 0x3B1, 0x3B5, 0x3B7, 0x3B9, 0x3CB, 0x3BF, 0x3C5, 0x3C9, 0x433, 0x43A,
    0xE7, 0x113, 0xEF, 0x6B, 0x6D, 0xF5, 0x14D, 0x70, 0x169, 0x77, 0xE2, 0x103, 0xEA, 0xF4, 0x1A1,
    0x1B0, 0x1F00, 0x1F01, 0x1F10, 0x1F11, 0x1F20, 0x1F21, 0x1F30, 0x1F31, 0x1F40, 0x1F41, 0x1F50,
    0x1F51, 0x1F60, 0x1F61]),
  (0x302, [0x61, 0x65, 0x69, 0x6F, 0x75, 0x63, 0x67, 0x68, 0x6A, 0x73, 0x77, 0x79, 0x7A, 0x1EA1,
    0x1EB9, 0x1ECD]),
  (0x303, [0x61, 0x6E, 0x6F, 0x69, 0x75, 0x76, 0xE2, 0x103, 0x65, 0xEA, 0xF4, 0x1A1, 0x1B0, 0x79]),
  (0x308, [0x61, 0x65, 0x69, 0x6F, 0x75, 0x79, 0x3B9, 0x3C5, 0x435, 0x456, 0x430, 0x4D9, 0x436,
    0x437, 0x438, 0x43E, 0x4E9, 0x44D, 0x443, 0x447, 0x44B, 0x68, 0xF5, 0x16B, 0x77, 0x78, 0x74]),
  (0x30A, [0x61, 0x75, 0x77, 0x79]),
  (0x327, [0x63, 0x67, 0x6B, 0x6C, 0x6E, 0x72, 0x73, 0x74, 0x65, 0x64, 0x68]),
  (0x304, [0x61, 0x65, 0x69, 0x6F, 0x75, 0xFC, 0xE4, 0x227, 0xE6, 0x1EB, 0xF6, 0xF5, 0x22F, 0x79,
    0x438, 0x443, 0x67, 0x1E37, 0x1E5B, 0x3B1, 0x3B9, 0x3C5]),
  (0x306, [0x61, 0x65, 0x67, 0x69, 0x6F, 0x75, 0x438, 0x443, 0x436, 0x430, 0x435, 0x229, 0x1EA1,
    0x3B1, 0x3B9, 0x3C5]),
  (0x328, [0x61, 0x65, 0x69, 0x75, 0x6F]),
  (0x307, [0x63, 0x65, 0x67, 0x7A, 0x61, 0x6F, 0x62, 0x64, 0x66, 0x68, 0x6D, 0x6E, 0x70, 0x72,
    0x73, 0x15B, 0x161, 0x1E63, 0x74, 0x77, 0x78, 0x79]),
  (0x30C, [0x63, 0x64, 0x65, 0x6C, 0x6E, 0x72, 0x73, 0x74, 0x7A, 0x61, 0x69, 0x6F, 0x75, 0xFC,
    0x67, 0x6B, 0x292, 0x6A, 0x68]),
  (0x30B, [0x6F, 0x75, 0x443]),
  (0x31B, [0x6F, 0x75]),
  (0x30F, [0x61, 0x65, 0x69, 0x6F, 0x72, 0x75, 0x475]),
  (0x311, [0x61, 0x65, 0x69, 0x6F, 0x72, 0x75]),
  (0x326, [0x73, 0x74]),
  (0x653, [0x627]),
  (0x654, [0x627, 0x648, 0x64A, 0x6D5, 0x6C1, 0x6D2]),
  (0x655, [0x627]),
  (0x93C, [0x928, 0x930, 0x933]),
  (0x9BE, [0x9C7]),
  (0x9D7, [0x9C7]),
  (0xB56, [0xB47]),
  (0xB3E, [0xB47]),
  (0xB57, [0xB47]),
  (0xBD7, [0xB92, 0xBC6]),
  (0xBBE, [0xBC6, 0xBC7]),
  (0xC56, [0xC46]),
  (0xCD5, [0xCBF, 0xCC6, 0xCCA]),
  (0xCD6, [0xCC6]),
  (0xCC2, [0xCC6]),
  (0xD3E, [0xD46, 0xD47]),
  (0xD57, [0xD46]),
  (0xDCA, [0xDD9, 0xDDC]),
  (0xDCF, [0xDD9]),
  (0xDDF, [0xDD9]),
  (0x102E, [0x1025]),
  (0x1B35, [0x1B05, 0x1B07, 0x1B09, 0x1B0B, 0x1B0D, 0x1B11, 0x1B3A, 0x1B3C, 0x1B3E, 0x1B3F,
    0x1B42]),
  (0x325, [0x61]),
  (0x323, [0x62, 0x64, 0x68, 0x6B, 0x6C, 0x6D, 0x6E, 0x72, 0x73, 0x74, 0x76, 0x77, 0x7A, 0x61,
    0x65, 0x69, 0x6F, 0x1A1, 0x75, 0x1B0, 0x79]),
  (0x331, [0x62, 0x64, 0x6B, 0x6C, 0x6E, 0x72, 0x74, 0x7A, 0x68]),
  (0x32D, [0x64, 0x65, 0x6C, 0x6E, 0x74, 0x75]),
  (0x330, [0x65, 0x69, 0x75]),
  (0x32E, [0x68]),
  (0x324, [0x75]),
  (0x309, [0x61, 0xE2, 0x103, 0x65, 0xEA, 0x69, 0x6F, 0xF4, 0x1A1, 0x75, 0x1B0, 0x79]),
  (0x313, [0x3B1, 0x3B5, 0x3B7, 0x3B9, 0x3BF, 0x3C5, 0x3C9, 0x3C1]),
  (0x314, [0x3B1, 0x3B5, 0x3B7, 0x3B9, 0x3BF, 0x3C5, 0x3C9, 0x3C1]),
  (0x342, [0x1F00, 0x1F01, 0x1F20, 0x1F21, 0x1F30, 0x1F31, 0x1F50, 0x1F51, 0x1F60, 0x1F61, 0x3B1,
    0x3B7, 0x3B9, 0x3CA, 0x3C5, 0x3CB, 0x3C9]),
  (0x3099, [0x304B, 0x304D, 0x304F, 0x3051, 0x3053, 0x3055, 0x3057, 0x3059, 0x305B, 0x305D, 0x305F,
    0x3061, 0x3064, 0x3066, 0x3068, 0x306F, 0x3072, 0x3075, 0x3078, 0x307B, 0x3046, 0x309D, 0x30AB,
    0x30AD, 0x30AF, 0x30B1, 0x30B3, 0x30B5, 0x30B7, 0x30B9, 0x30BB, 0x30BD, 0x30BF, 0x30C1, 0x30C4,
    0x30C6, 0x30C8, 0x30CF, 0x30D2, 0x30D5, 0x30D8, 0x30DB, 0x30A6, 0x30EF, 0x30F0, 0x30F1, 0x30F2,
    0x30FD]),
  (0x309A, [0x306F, 0x3072, 0x3075, 0x3078, 0x307B, 0x30CF, 0x30D2, 0x30D5, 0x30D8, 0x30DB]),
  (0x110BA, [0x11099, 0x1109B, 0x110A5]),
  (0x11127, [0x11131, 0x11132]),
  (0x1133E, [0x11347]),
  (0x11357, [0x11347]),
  (0x114BA, [0x114B9]),
  (0x114B0, [0x114B9]),
  (0x114BD, [0x114B9]),
  (0x115AF, [0x115B8, 0x115B9]),
  (0x11930, [0x11935])]

def isMark (c : Char) : Bool := Text.inRanges c.toNat markRanges

/-- Whether a letter and the mark after it make one letter. -/
def unites (letter mark : Char) : Bool :=
  (unions.lookup mark.toNat).any fun letters => letter.toNat ∈ letters

/-- Whether a small letter, a digit or a mark may be in a name wherever it stands. -/
def isPlain (c : Char) : Bool :=
  if c.toNat < 128 then c.isAlphanum || c = '-'
  else (Text.isWordChar c && !Text.inRanges c.toNat variantRanges) || isMark c ||
    c.toNat ∈ [0x6FD, 0x6FE, 0xF0B]

end ReplayFlow.Service.Host
