import Dossier.Text.Table

/-!
Word classes of characters, and the pictographs that a joiner glues together. Data of Unicode 17.
-/

namespace Dossier.Text

inductive WordClass
  | other | carriageReturn | lineFeed | newline | extend | format | joiner | space
  | letter | hebrew | numeric | katakana | connector
  | midLetter | midNumber | midBoth | apostrophe | doubleQuote | regional
  deriving DecidableEq, Repr

private def wordRowsA : List (Nat × Nat × WordClass) := [
  (0xA, 0xA, .lineFeed), (0xB, 0xC, .newline), (0xD, 0xD, .carriageReturn), (0x20, 0x20, .space),
  (0x22, 0x22, .doubleQuote), (0x27, 0x27, .apostrophe), (0x2C, 0x2C, .midNumber),
  (0x2E, 0x2E, .midBoth), (0x30, 0x39, .numeric), (0x3A, 0x3A, .midLetter),
  (0x3B, 0x3B, .midNumber), (0x41, 0x5A, .letter), (0x5F, 0x5F, .connector), (0x61, 0x7A, .letter),
  (0x85, 0x85, .newline), (0xAA, 0xAA, .letter), (0xAD, 0xAD, .format), (0xB5, 0xB5, .letter),
  (0xB7, 0xB7, .midLetter), (0xB8, 0xB8, .letter), (0xBA, 0xBA, .letter), (0xC0, 0xD6, .letter),
  (0xD8, 0xF6, .letter), (0xF8, 0x2D7, .letter), (0x2DE, 0x2FF, .letter), (0x300, 0x36F, .extend),
  (0x370, 0x374, .letter), (0x376, 0x377, .letter), (0x37A, 0x37D, .letter),
  (0x37E, 0x37E, .midNumber), (0x37F, 0x37F, .letter), (0x386, 0x386, .letter),
  (0x387, 0x387, .midLetter), (0x388, 0x38A, .letter), (0x38C, 0x38C, .letter),
  (0x38E, 0x3A1, .letter), (0x3A3, 0x3F5, .letter), (0x3F7, 0x481, .letter),
  (0x483, 0x489, .extend), (0x48A, 0x52F, .letter), (0x531, 0x556, .letter),
  (0x559, 0x55C, .letter), (0x55E, 0x55E, .letter), (0x55F, 0x55F, .midLetter),
  (0x560, 0x588, .letter), (0x589, 0x589, .midNumber), (0x58A, 0x58A, .letter),
  (0x591, 0x5BD, .extend), (0x5BF, 0x5BF, .extend), (0x5C1, 0x5C2, .extend),
  (0x5C4, 0x5C5, .extend), (0x5C7, 0x5C7, .extend), (0x5D0, 0x5EA, .hebrew),
  (0x5EF, 0x5F2, .hebrew), (0x5F3, 0x5F3, .letter), (0x5F4, 0x5F4, .midLetter),
  (0x600, 0x605, .numeric), (0x60C, 0x60D, .midNumber), (0x610, 0x61A, .extend),
  (0x61C, 0x61C, .format), (0x620, 0x64A, .letter), (0x64B, 0x65F, .extend),
  (0x660, 0x669, .numeric), (0x66B, 0x66B, .numeric), (0x66C, 0x66C, .midNumber),
  (0x66E, 0x66F, .letter), (0x670, 0x670, .extend), (0x671, 0x6D3, .letter),
  (0x6D5, 0x6D5, .letter), (0x6D6, 0x6DC, .extend), (0x6DD, 0x6DD, .numeric),
  (0x6DF, 0x6E4, .extend), (0x6E5, 0x6E6, .letter), (0x6E7, 0x6E8, .extend),
  (0x6EA, 0x6ED, .extend), (0x6EE, 0x6EF, .letter), (0x6F0, 0x6F9, .numeric),
  (0x6FA, 0x6FC, .letter), (0x6FF, 0x6FF, .letter), (0x70F, 0x710, .letter),
  (0x711, 0x711, .extend), (0x712, 0x72F, .letter), (0x730, 0x74A, .extend),
  (0x74D, 0x7A5, .letter), (0x7A6, 0x7B0, .extend), (0x7B1, 0x7B1, .letter),
  (0x7C0, 0x7C9, .numeric), (0x7CA, 0x7EA, .letter), (0x7EB, 0x7F3, .extend),
  (0x7F4, 0x7F5, .letter), (0x7F8, 0x7F8, .midNumber), (0x7FA, 0x7FA, .letter),
  (0x7FD, 0x7FD, .extend), (0x800, 0x815, .letter), (0x816, 0x819, .extend),
  (0x81A, 0x81A, .letter), (0x81B, 0x823, .extend), (0x824, 0x824, .letter),
  (0x825, 0x827, .extend), (0x828, 0x828, .letter), (0x829, 0x82D, .extend),
  (0x840, 0x858, .letter), (0x859, 0x85B, .extend), (0x860, 0x86A, .letter),
  (0x870, 0x887, .letter), (0x889, 0x88F, .letter), (0x890, 0x891, .numeric),
  (0x897, 0x89F, .extend), (0x8A0, 0x8C9, .letter), (0x8CA, 0x8E1, .extend),
  (0x8E2, 0x8E2, .numeric), (0x8E3, 0x903, .extend), (0x904, 0x939, .letter),
  (0x93A, 0x93C, .extend), (0x93D, 0x93D, .letter), (0x93E, 0x94F, .extend),
  (0x950, 0x950, .letter), (0x951, 0x957, .extend), (0x958, 0x961, .letter),
  (0x962, 0x963, .extend), (0x966, 0x96F, .numeric), (0x971, 0x980, .letter),
  (0x981, 0x983, .extend), (0x985, 0x98C, .letter), (0x98F, 0x990, .letter),
  (0x993, 0x9A8, .letter), (0x9AA, 0x9B0, .letter), (0x9B2, 0x9B2, .letter),
  (0x9B6, 0x9B9, .letter), (0x9BC, 0x9BC, .extend), (0x9BD, 0x9BD, .letter),
  (0x9BE, 0x9C4, .extend), (0x9C7, 0x9C8, .extend), (0x9CB, 0x9CD, .extend),
  (0x9CE, 0x9CE, .letter), (0x9D7, 0x9D7, .extend), (0x9DC, 0x9DD, .letter),
  (0x9DF, 0x9E1, .letter), (0x9E2, 0x9E3, .extend), (0x9E6, 0x9EF, .numeric),
  (0x9F0, 0x9F1, .letter), (0x9FC, 0x9FC, .letter), (0x9FE, 0x9FE, .extend),
  (0xA01, 0xA03, .extend), (0xA05, 0xA0A, .letter), (0xA0F, 0xA10, .letter),
  (0xA13, 0xA28, .letter), (0xA2A, 0xA30, .letter), (0xA32, 0xA33, .letter),
  (0xA35, 0xA36, .letter), (0xA38, 0xA39, .letter), (0xA3C, 0xA3C, .extend),
  (0xA3E, 0xA42, .extend), (0xA47, 0xA48, .extend), (0xA4B, 0xA4D, .extend),
  (0xA51, 0xA51, .extend), (0xA59, 0xA5C, .letter), (0xA5E, 0xA5E, .letter),
  (0xA66, 0xA6F, .numeric), (0xA70, 0xA71, .extend), (0xA72, 0xA74, .letter),
  (0xA75, 0xA75, .extend), (0xA81, 0xA83, .extend), (0xA85, 0xA8D, .letter),
  (0xA8F, 0xA91, .letter), (0xA93, 0xAA8, .letter), (0xAAA, 0xAB0, .letter),
  (0xAB2, 0xAB3, .letter), (0xAB5, 0xAB9, .letter), (0xABC, 0xABC, .extend),
  (0xABD, 0xABD, .letter), (0xABE, 0xAC5, .extend), (0xAC7, 0xAC9, .extend),
  (0xACB, 0xACD, .extend), (0xAD0, 0xAD0, .letter), (0xAE0, 0xAE1, .letter),
  (0xAE2, 0xAE3, .extend), (0xAE6, 0xAEF, .numeric), (0xAF9, 0xAF9, .letter),
  (0xAFA, 0xAFF, .extend), (0xB01, 0xB03, .extend), (0xB05, 0xB0C, .letter),
  (0xB0F, 0xB10, .letter), (0xB13, 0xB28, .letter), (0xB2A, 0xB30, .letter),
  (0xB32, 0xB33, .letter), (0xB35, 0xB39, .letter), (0xB3C, 0xB3C, .extend),
  (0xB3D, 0xB3D, .letter), (0xB3E, 0xB44, .extend), (0xB47, 0xB48, .extend),
  (0xB4B, 0xB4D, .extend), (0xB55, 0xB57, .extend), (0xB5C, 0xB5D, .letter),
  (0xB5F, 0xB61, .letter), (0xB62, 0xB63, .extend), (0xB66, 0xB6F, .numeric),
  (0xB71, 0xB71, .letter), (0xB82, 0xB82, .extend), (0xB83, 0xB83, .letter),
  (0xB85, 0xB8A, .letter), (0xB8E, 0xB90, .letter), (0xB92, 0xB95, .letter),
  (0xB99, 0xB9A, .letter), (0xB9C, 0xB9C, .letter), (0xB9E, 0xB9F, .letter),
  (0xBA3, 0xBA4, .letter), (0xBA8, 0xBAA, .letter), (0xBAE, 0xBB9, .letter),
  (0xBBE, 0xBC2, .extend), (0xBC6, 0xBC8, .extend), (0xBCA, 0xBCD, .extend),
  (0xBD0, 0xBD0, .letter), (0xBD7, 0xBD7, .extend), (0xBE6, 0xBEF, .numeric),
  (0xC00, 0xC04, .extend), (0xC05, 0xC0C, .letter), (0xC0E, 0xC10, .letter),
  (0xC12, 0xC28, .letter), (0xC2A, 0xC39, .letter), (0xC3C, 0xC3C, .extend),
  (0xC3D, 0xC3D, .letter), (0xC3E, 0xC44, .extend), (0xC46, 0xC48, .extend),
  (0xC4A, 0xC4D, .extend), (0xC55, 0xC56, .extend), (0xC58, 0xC5A, .letter),
  (0xC5C, 0xC5D, .letter), (0xC60, 0xC61, .letter), (0xC62, 0xC63, .extend),
  (0xC66, 0xC6F, .numeric), (0xC80, 0xC80, .letter), (0xC81, 0xC83, .extend),
  (0xC85, 0xC8C, .letter), (0xC8E, 0xC90, .letter), (0xC92, 0xCA8, .letter),
  (0xCAA, 0xCB3, .letter), (0xCB5, 0xCB9, .letter), (0xCBC, 0xCBC, .extend),
  (0xCBD, 0xCBD, .letter), (0xCBE, 0xCC4, .extend), (0xCC6, 0xCC8, .extend),
  (0xCCA, 0xCCD, .extend), (0xCD5, 0xCD6, .extend), (0xCDC, 0xCDE, .letter),
  (0xCE0, 0xCE1, .letter), (0xCE2, 0xCE3, .extend), (0xCE6, 0xCEF, .numeric),
  (0xCF1, 0xCF2, .letter), (0xCF3, 0xCF3, .extend), (0xD00, 0xD03, .extend),
  (0xD04, 0xD0C, .letter), (0xD0E, 0xD10, .letter), (0xD12, 0xD3A, .letter),
  (0xD3B, 0xD3C, .extend), (0xD3D, 0xD3D, .letter), (0xD3E, 0xD44, .extend),
  (0xD46, 0xD48, .extend), (0xD4A, 0xD4D, .extend), (0xD4E, 0xD4E, .letter),
  (0xD54, 0xD56, .letter), (0xD57, 0xD57, .extend), (0xD5F, 0xD61, .letter),
  (0xD62, 0xD63, .extend), (0xD66, 0xD6F, .numeric), (0xD7A, 0xD7F, .letter),
  (0xD81, 0xD83, .extend), (0xD85, 0xD96, .letter), (0xD9A, 0xDB1, .letter),
  (0xDB3, 0xDBB, .letter), (0xDBD, 0xDBD, .letter), (0xDC0, 0xDC6, .letter),
  (0xDCA, 0xDCA, .extend), (0xDCF, 0xDD4, .extend), (0xDD6, 0xDD6, .extend)]

private def wordRowsB : List (Nat × Nat × WordClass) := [
  (0xDD8, 0xDDF, .extend), (0xDE6, 0xDEF, .numeric), (0xDF2, 0xDF3, .extend),
  (0xE31, 0xE31, .extend), (0xE34, 0xE3A, .extend), (0xE47, 0xE4E, .extend),
  (0xE50, 0xE59, .numeric), (0xEB1, 0xEB1, .extend), (0xEB4, 0xEBC, .extend),
  (0xEC8, 0xECE, .extend), (0xED0, 0xED9, .numeric), (0xF00, 0xF00, .letter),
  (0xF18, 0xF19, .extend), (0xF20, 0xF29, .numeric), (0xF35, 0xF35, .extend),
  (0xF37, 0xF37, .extend), (0xF39, 0xF39, .extend), (0xF3E, 0xF3F, .extend),
  (0xF40, 0xF47, .letter), (0xF49, 0xF6C, .letter), (0xF71, 0xF84, .extend),
  (0xF86, 0xF87, .extend), (0xF88, 0xF8C, .letter), (0xF8D, 0xF97, .extend),
  (0xF99, 0xFBC, .extend), (0xFC6, 0xFC6, .extend), (0x102B, 0x103E, .extend),
  (0x1040, 0x1049, .numeric), (0x1056, 0x1059, .extend), (0x105E, 0x1060, .extend),
  (0x1062, 0x1064, .extend), (0x1067, 0x106D, .extend), (0x1071, 0x1074, .extend),
  (0x1082, 0x108D, .extend), (0x108F, 0x108F, .extend), (0x1090, 0x1099, .numeric),
  (0x109A, 0x109D, .extend), (0x10A0, 0x10C5, .letter), (0x10C7, 0x10C7, .letter),
  (0x10CD, 0x10CD, .letter), (0x10D0, 0x10FA, .letter), (0x10FC, 0x1248, .letter),
  (0x124A, 0x124D, .letter), (0x1250, 0x1256, .letter), (0x1258, 0x1258, .letter),
  (0x125A, 0x125D, .letter), (0x1260, 0x1288, .letter), (0x128A, 0x128D, .letter),
  (0x1290, 0x12B0, .letter), (0x12B2, 0x12B5, .letter), (0x12B8, 0x12BE, .letter),
  (0x12C0, 0x12C0, .letter), (0x12C2, 0x12C5, .letter), (0x12C8, 0x12D6, .letter),
  (0x12D8, 0x1310, .letter), (0x1312, 0x1315, .letter), (0x1318, 0x135A, .letter),
  (0x135D, 0x135F, .extend), (0x1380, 0x138F, .letter), (0x13A0, 0x13F5, .letter),
  (0x13F8, 0x13FD, .letter), (0x1401, 0x166C, .letter), (0x166F, 0x167F, .letter),
  (0x1680, 0x1680, .space), (0x1681, 0x169A, .letter), (0x16A0, 0x16EA, .letter),
  (0x16EE, 0x16F8, .letter), (0x1700, 0x1711, .letter), (0x1712, 0x1715, .extend),
  (0x171F, 0x1731, .letter), (0x1732, 0x1734, .extend), (0x1740, 0x1751, .letter),
  (0x1752, 0x1753, .extend), (0x1760, 0x176C, .letter), (0x176E, 0x1770, .letter),
  (0x1772, 0x1773, .extend), (0x17B4, 0x17D3, .extend), (0x17DD, 0x17DD, .extend),
  (0x17E0, 0x17E9, .numeric), (0x180B, 0x180D, .extend), (0x180E, 0x180E, .format),
  (0x180F, 0x180F, .extend), (0x1810, 0x1819, .numeric), (0x1820, 0x1878, .letter),
  (0x1880, 0x1884, .letter), (0x1885, 0x1886, .extend), (0x1887, 0x18A8, .letter),
  (0x18A9, 0x18A9, .extend), (0x18AA, 0x18AA, .letter), (0x18B0, 0x18F5, .letter),
  (0x1900, 0x191E, .letter), (0x1920, 0x192B, .extend), (0x1930, 0x193B, .extend),
  (0x1946, 0x194F, .numeric), (0x19D0, 0x19DA, .numeric), (0x1A00, 0x1A16, .letter),
  (0x1A17, 0x1A1B, .extend), (0x1A55, 0x1A5E, .extend), (0x1A60, 0x1A7C, .extend),
  (0x1A7F, 0x1A7F, .extend), (0x1A80, 0x1A89, .numeric), (0x1A90, 0x1A99, .numeric),
  (0x1AB0, 0x1ADD, .extend), (0x1AE0, 0x1AEB, .extend), (0x1B00, 0x1B04, .extend),
  (0x1B05, 0x1B33, .letter), (0x1B34, 0x1B44, .extend), (0x1B45, 0x1B4C, .letter),
  (0x1B50, 0x1B59, .numeric), (0x1B6B, 0x1B73, .extend), (0x1B80, 0x1B82, .extend),
  (0x1B83, 0x1BA0, .letter), (0x1BA1, 0x1BAD, .extend), (0x1BAE, 0x1BAF, .letter),
  (0x1BB0, 0x1BB9, .numeric), (0x1BBA, 0x1BE5, .letter), (0x1BE6, 0x1BF3, .extend),
  (0x1C00, 0x1C23, .letter), (0x1C24, 0x1C37, .extend), (0x1C40, 0x1C49, .numeric),
  (0x1C4D, 0x1C4F, .letter), (0x1C50, 0x1C59, .numeric), (0x1C5A, 0x1C7D, .letter),
  (0x1C80, 0x1C8A, .letter), (0x1C90, 0x1CBA, .letter), (0x1CBD, 0x1CBF, .letter),
  (0x1CD0, 0x1CD2, .extend), (0x1CD4, 0x1CE8, .extend), (0x1CE9, 0x1CEC, .letter),
  (0x1CED, 0x1CED, .extend), (0x1CEE, 0x1CF3, .letter), (0x1CF4, 0x1CF4, .extend),
  (0x1CF5, 0x1CF6, .letter), (0x1CF7, 0x1CF9, .extend), (0x1CFA, 0x1CFA, .letter),
  (0x1D00, 0x1DBF, .letter), (0x1DC0, 0x1DFF, .extend), (0x1E00, 0x1F15, .letter),
  (0x1F18, 0x1F1D, .letter), (0x1F20, 0x1F45, .letter), (0x1F48, 0x1F4D, .letter),
  (0x1F50, 0x1F57, .letter), (0x1F59, 0x1F59, .letter), (0x1F5B, 0x1F5B, .letter),
  (0x1F5D, 0x1F5D, .letter), (0x1F5F, 0x1F7D, .letter), (0x1F80, 0x1FB4, .letter),
  (0x1FB6, 0x1FBC, .letter), (0x1FBE, 0x1FBE, .letter), (0x1FC2, 0x1FC4, .letter),
  (0x1FC6, 0x1FCC, .letter), (0x1FD0, 0x1FD3, .letter), (0x1FD6, 0x1FDB, .letter),
  (0x1FE0, 0x1FEC, .letter), (0x1FF2, 0x1FF4, .letter), (0x1FF6, 0x1FFC, .letter),
  (0x2000, 0x2006, .space), (0x2008, 0x200A, .space), (0x200C, 0x200C, .extend),
  (0x200D, 0x200D, .joiner), (0x200E, 0x200F, .format), (0x2018, 0x2019, .midBoth),
  (0x2024, 0x2024, .midBoth), (0x2027, 0x2027, .midLetter), (0x2028, 0x2029, .newline),
  (0x202A, 0x202E, .format), (0x202F, 0x202F, .connector), (0x203F, 0x2040, .connector),
  (0x2044, 0x2044, .midNumber), (0x2054, 0x2054, .connector), (0x205F, 0x205F, .space),
  (0x2060, 0x2064, .format), (0x2066, 0x206F, .format), (0x2071, 0x2071, .letter),
  (0x207F, 0x207F, .letter), (0x2090, 0x209C, .letter), (0x20D0, 0x20F0, .extend),
  (0x2102, 0x2102, .letter), (0x2107, 0x2107, .letter), (0x210A, 0x2113, .letter),
  (0x2115, 0x2115, .letter), (0x2119, 0x211D, .letter), (0x2124, 0x2124, .letter),
  (0x2126, 0x2126, .letter), (0x2128, 0x2128, .letter), (0x212A, 0x212D, .letter),
  (0x212F, 0x2139, .letter), (0x213C, 0x213F, .letter), (0x2145, 0x2149, .letter),
  (0x214E, 0x214E, .letter), (0x2160, 0x2188, .letter), (0x24B6, 0x24E9, .letter),
  (0x2C00, 0x2CE4, .letter), (0x2CEB, 0x2CEE, .letter), (0x2CEF, 0x2CF1, .extend),
  (0x2CF2, 0x2CF3, .letter), (0x2D00, 0x2D25, .letter), (0x2D27, 0x2D27, .letter),
  (0x2D2D, 0x2D2D, .letter), (0x2D30, 0x2D67, .letter), (0x2D6F, 0x2D6F, .letter),
  (0x2D7F, 0x2D7F, .extend), (0x2D80, 0x2D96, .letter), (0x2DA0, 0x2DA6, .letter),
  (0x2DA8, 0x2DAE, .letter), (0x2DB0, 0x2DB6, .letter), (0x2DB8, 0x2DBE, .letter),
  (0x2DC0, 0x2DC6, .letter), (0x2DC8, 0x2DCE, .letter), (0x2DD0, 0x2DD6, .letter),
  (0x2DD8, 0x2DDE, .letter), (0x2DE0, 0x2DFF, .extend), (0x2E2F, 0x2E2F, .letter),
  (0x3000, 0x3000, .space), (0x3005, 0x3005, .letter), (0x302A, 0x302F, .extend),
  (0x3031, 0x3035, .katakana), (0x303B, 0x303C, .letter), (0x3099, 0x309A, .extend),
  (0x309B, 0x309C, .katakana), (0x30A0, 0x30FA, .katakana), (0x30FC, 0x30FF, .katakana),
  (0x3105, 0x312F, .letter), (0x3131, 0x318E, .letter), (0x31A0, 0x31BF, .letter),
  (0x31F0, 0x31FF, .katakana), (0x32D0, 0x32FE, .katakana), (0x3300, 0x3357, .katakana),
  (0xA000, 0xA48C, .letter), (0xA4D0, 0xA4FD, .letter), (0xA500, 0xA60C, .letter),
  (0xA610, 0xA61F, .letter), (0xA620, 0xA629, .numeric), (0xA62A, 0xA62B, .letter),
  (0xA640, 0xA66E, .letter), (0xA66F, 0xA672, .extend), (0xA674, 0xA67D, .extend),
  (0xA67F, 0xA69D, .letter), (0xA69E, 0xA69F, .extend), (0xA6A0, 0xA6EF, .letter),
  (0xA6F0, 0xA6F1, .extend), (0xA708, 0xA7DC, .letter), (0xA7F1, 0xA801, .letter),
  (0xA802, 0xA802, .extend), (0xA803, 0xA805, .letter), (0xA806, 0xA806, .extend),
  (0xA807, 0xA80A, .letter), (0xA80B, 0xA80B, .extend), (0xA80C, 0xA822, .letter),
  (0xA823, 0xA827, .extend), (0xA82C, 0xA82C, .extend), (0xA840, 0xA873, .letter),
  (0xA880, 0xA881, .extend), (0xA882, 0xA8B3, .letter), (0xA8B4, 0xA8C5, .extend),
  (0xA8D0, 0xA8D9, .numeric), (0xA8E0, 0xA8F1, .extend), (0xA8F2, 0xA8F7, .letter),
  (0xA8FB, 0xA8FB, .letter), (0xA8FD, 0xA8FE, .letter), (0xA8FF, 0xA8FF, .extend),
  (0xA900, 0xA909, .numeric), (0xA90A, 0xA925, .letter), (0xA926, 0xA92D, .extend),
  (0xA930, 0xA946, .letter), (0xA947, 0xA953, .extend), (0xA960, 0xA97C, .letter),
  (0xA980, 0xA983, .extend), (0xA984, 0xA9B2, .letter), (0xA9B3, 0xA9C0, .extend),
  (0xA9CF, 0xA9CF, .letter), (0xA9D0, 0xA9D9, .numeric), (0xA9E5, 0xA9E5, .extend),
  (0xA9F0, 0xA9F9, .numeric), (0xAA00, 0xAA28, .letter)]

private def wordRowsC : List (Nat × Nat × WordClass) := [
  (0xAA29, 0xAA36, .extend), (0xAA40, 0xAA42, .letter), (0xAA43, 0xAA43, .extend),
  (0xAA44, 0xAA4B, .letter), (0xAA4C, 0xAA4D, .extend), (0xAA50, 0xAA59, .numeric),
  (0xAA7B, 0xAA7D, .extend), (0xAAB0, 0xAAB0, .extend), (0xAAB2, 0xAAB4, .extend),
  (0xAAB7, 0xAAB8, .extend), (0xAABE, 0xAABF, .extend), (0xAAC1, 0xAAC1, .extend),
  (0xAAE0, 0xAAEA, .letter), (0xAAEB, 0xAAEF, .extend), (0xAAF2, 0xAAF4, .letter),
  (0xAAF5, 0xAAF6, .extend), (0xAB01, 0xAB06, .letter), (0xAB09, 0xAB0E, .letter),
  (0xAB11, 0xAB16, .letter), (0xAB20, 0xAB26, .letter), (0xAB28, 0xAB2E, .letter),
  (0xAB30, 0xAB69, .letter), (0xAB70, 0xABE2, .letter), (0xABE3, 0xABEA, .extend),
  (0xABEC, 0xABED, .extend), (0xABF0, 0xABF9, .numeric), (0xAC00, 0xD7A3, .letter),
  (0xD7B0, 0xD7C6, .letter), (0xD7CB, 0xD7FB, .letter), (0xFB00, 0xFB06, .letter),
  (0xFB13, 0xFB17, .letter), (0xFB1D, 0xFB1D, .hebrew), (0xFB1E, 0xFB1E, .extend),
  (0xFB1F, 0xFB28, .hebrew), (0xFB2A, 0xFB36, .hebrew), (0xFB38, 0xFB3C, .hebrew),
  (0xFB3E, 0xFB3E, .hebrew), (0xFB40, 0xFB41, .hebrew), (0xFB43, 0xFB44, .hebrew),
  (0xFB46, 0xFB4F, .hebrew), (0xFB50, 0xFBB1, .letter), (0xFBD3, 0xFD3D, .letter),
  (0xFD50, 0xFD8F, .letter), (0xFD92, 0xFDC7, .letter), (0xFDF0, 0xFDFB, .letter),
  (0xFE00, 0xFE0F, .extend), (0xFE13, 0xFE13, .midLetter), (0xFE20, 0xFE2F, .extend),
  (0xFE33, 0xFE34, .connector), (0xFE4D, 0xFE4F, .connector), (0xFE50, 0xFE50, .midNumber),
  (0xFE52, 0xFE52, .midBoth), (0xFE54, 0xFE54, .midNumber), (0xFE55, 0xFE55, .midLetter),
  (0xFE70, 0xFE74, .letter), (0xFE76, 0xFEFC, .letter), (0xFEFF, 0xFEFF, .format),
  (0xFF07, 0xFF07, .midBoth), (0xFF0C, 0xFF0C, .midNumber), (0xFF0E, 0xFF0E, .midBoth),
  (0xFF10, 0xFF19, .numeric), (0xFF1A, 0xFF1A, .midLetter), (0xFF1B, 0xFF1B, .midNumber),
  (0xFF21, 0xFF3A, .letter), (0xFF3F, 0xFF3F, .connector), (0xFF41, 0xFF5A, .letter),
  (0xFF66, 0xFF9D, .katakana), (0xFF9E, 0xFF9F, .extend), (0xFFA0, 0xFFBE, .letter),
  (0xFFC2, 0xFFC7, .letter), (0xFFCA, 0xFFCF, .letter), (0xFFD2, 0xFFD7, .letter),
  (0xFFDA, 0xFFDC, .letter), (0xFFF9, 0xFFFB, .format), (0x10000, 0x1000B, .letter),
  (0x1000D, 0x10026, .letter), (0x10028, 0x1003A, .letter), (0x1003C, 0x1003D, .letter),
  (0x1003F, 0x1004D, .letter), (0x10050, 0x1005D, .letter), (0x10080, 0x100FA, .letter),
  (0x10140, 0x10174, .letter), (0x101FD, 0x101FD, .extend), (0x10280, 0x1029C, .letter),
  (0x102A0, 0x102D0, .letter), (0x102E0, 0x102E0, .extend), (0x10300, 0x1031F, .letter),
  (0x1032D, 0x1034A, .letter), (0x10350, 0x10375, .letter), (0x10376, 0x1037A, .extend),
  (0x10380, 0x1039D, .letter), (0x103A0, 0x103C3, .letter), (0x103C8, 0x103CF, .letter),
  (0x103D1, 0x103D5, .letter), (0x10400, 0x1049D, .letter), (0x104A0, 0x104A9, .numeric),
  (0x104B0, 0x104D3, .letter), (0x104D8, 0x104FB, .letter), (0x10500, 0x10527, .letter),
  (0x10530, 0x10563, .letter), (0x10570, 0x1057A, .letter), (0x1057C, 0x1058A, .letter),
  (0x1058C, 0x10592, .letter), (0x10594, 0x10595, .letter), (0x10597, 0x105A1, .letter),
  (0x105A3, 0x105B1, .letter), (0x105B3, 0x105B9, .letter), (0x105BB, 0x105BC, .letter),
  (0x105C0, 0x105F3, .letter), (0x10600, 0x10736, .letter), (0x10740, 0x10755, .letter),
  (0x10760, 0x10767, .letter), (0x10780, 0x10785, .letter), (0x10787, 0x107B0, .letter),
  (0x107B2, 0x107BA, .letter), (0x10800, 0x10805, .letter), (0x10808, 0x10808, .letter),
  (0x1080A, 0x10835, .letter), (0x10837, 0x10838, .letter), (0x1083C, 0x1083C, .letter),
  (0x1083F, 0x10855, .letter), (0x10860, 0x10876, .letter), (0x10880, 0x1089E, .letter),
  (0x108E0, 0x108F2, .letter), (0x108F4, 0x108F5, .letter), (0x10900, 0x10915, .letter),
  (0x10920, 0x10939, .letter), (0x10940, 0x10959, .letter), (0x10980, 0x109B7, .letter),
  (0x109BE, 0x109BF, .letter), (0x10A00, 0x10A00, .letter), (0x10A01, 0x10A03, .extend),
  (0x10A05, 0x10A06, .extend), (0x10A0C, 0x10A0F, .extend), (0x10A10, 0x10A13, .letter),
  (0x10A15, 0x10A17, .letter), (0x10A19, 0x10A35, .letter), (0x10A38, 0x10A3A, .extend),
  (0x10A3F, 0x10A3F, .extend), (0x10A60, 0x10A7C, .letter), (0x10A80, 0x10A9C, .letter),
  (0x10AC0, 0x10AC7, .letter), (0x10AC9, 0x10AE4, .letter), (0x10AE5, 0x10AE6, .extend),
  (0x10B00, 0x10B35, .letter), (0x10B40, 0x10B55, .letter), (0x10B60, 0x10B72, .letter),
  (0x10B80, 0x10B91, .letter), (0x10C00, 0x10C48, .letter), (0x10C80, 0x10CB2, .letter),
  (0x10CC0, 0x10CF2, .letter), (0x10D00, 0x10D23, .letter), (0x10D24, 0x10D27, .extend),
  (0x10D30, 0x10D39, .numeric), (0x10D40, 0x10D49, .numeric), (0x10D4A, 0x10D65, .letter),
  (0x10D69, 0x10D6D, .extend), (0x10D6F, 0x10D85, .letter), (0x10E80, 0x10EA9, .letter),
  (0x10EAB, 0x10EAC, .extend), (0x10EB0, 0x10EB1, .letter), (0x10EC2, 0x10EC7, .letter),
  (0x10EFA, 0x10EFF, .extend), (0x10F00, 0x10F1C, .letter), (0x10F27, 0x10F27, .letter),
  (0x10F30, 0x10F45, .letter), (0x10F46, 0x10F50, .extend), (0x10F70, 0x10F81, .letter),
  (0x10F82, 0x10F85, .extend), (0x10FB0, 0x10FC4, .letter), (0x10FE0, 0x10FF6, .letter),
  (0x11000, 0x11002, .extend), (0x11003, 0x11037, .letter), (0x11038, 0x11046, .extend),
  (0x11066, 0x1106F, .numeric), (0x11070, 0x11070, .extend), (0x11071, 0x11072, .letter),
  (0x11073, 0x11074, .extend), (0x11075, 0x11075, .letter), (0x1107F, 0x11082, .extend),
  (0x11083, 0x110AF, .letter), (0x110B0, 0x110BA, .extend), (0x110BD, 0x110BD, .numeric),
  (0x110C2, 0x110C2, .extend), (0x110CD, 0x110CD, .numeric), (0x110D0, 0x110E8, .letter),
  (0x110F0, 0x110F9, .numeric), (0x11100, 0x11102, .extend), (0x11103, 0x11126, .letter),
  (0x11127, 0x11134, .extend), (0x11136, 0x1113F, .numeric), (0x11144, 0x11144, .letter),
  (0x11145, 0x11146, .extend), (0x11147, 0x11147, .letter), (0x11150, 0x11172, .letter),
  (0x11173, 0x11173, .extend), (0x11176, 0x11176, .letter), (0x11180, 0x11182, .extend),
  (0x11183, 0x111B2, .letter), (0x111B3, 0x111C0, .extend), (0x111C1, 0x111C4, .letter),
  (0x111C9, 0x111CC, .extend), (0x111CE, 0x111CF, .extend), (0x111D0, 0x111D9, .numeric),
  (0x111DA, 0x111DA, .letter), (0x111DC, 0x111DC, .letter), (0x11200, 0x11211, .letter),
  (0x11213, 0x1122B, .letter), (0x1122C, 0x11237, .extend), (0x1123E, 0x1123E, .extend),
  (0x1123F, 0x11240, .letter), (0x11241, 0x11241, .extend), (0x11280, 0x11286, .letter),
  (0x11288, 0x11288, .letter), (0x1128A, 0x1128D, .letter), (0x1128F, 0x1129D, .letter),
  (0x1129F, 0x112A8, .letter), (0x112B0, 0x112DE, .letter), (0x112DF, 0x112EA, .extend),
  (0x112F0, 0x112F9, .numeric), (0x11300, 0x11303, .extend), (0x11305, 0x1130C, .letter),
  (0x1130F, 0x11310, .letter), (0x11313, 0x11328, .letter), (0x1132A, 0x11330, .letter),
  (0x11332, 0x11333, .letter), (0x11335, 0x11339, .letter), (0x1133B, 0x1133C, .extend),
  (0x1133D, 0x1133D, .letter), (0x1133E, 0x11344, .extend), (0x11347, 0x11348, .extend),
  (0x1134B, 0x1134D, .extend), (0x11350, 0x11350, .letter), (0x11357, 0x11357, .extend),
  (0x1135D, 0x11361, .letter), (0x11362, 0x11363, .extend), (0x11366, 0x1136C, .extend),
  (0x11370, 0x11374, .extend), (0x11380, 0x11389, .letter), (0x1138B, 0x1138B, .letter),
  (0x1138E, 0x1138E, .letter), (0x11390, 0x113B5, .letter), (0x113B7, 0x113B7, .letter),
  (0x113B8, 0x113C0, .extend), (0x113C2, 0x113C2, .extend), (0x113C5, 0x113C5, .extend),
  (0x113C7, 0x113CA, .extend), (0x113CC, 0x113D0, .extend), (0x113D1, 0x113D1, .letter),
  (0x113D2, 0x113D2, .extend), (0x113D3, 0x113D3, .letter), (0x113E1, 0x113E2, .extend),
  (0x11400, 0x11434, .letter), (0x11435, 0x11446, .extend), (0x11447, 0x1144A, .letter),
  (0x11450, 0x11459, .numeric), (0x1145E, 0x1145E, .extend), (0x1145F, 0x11461, .letter),
  (0x11480, 0x114AF, .letter), (0x114B0, 0x114C3, .extend), (0x114C4, 0x114C5, .letter),
  (0x114C7, 0x114C7, .letter), (0x114D0, 0x114D9, .numeric), (0x11580, 0x115AE, .letter),
  (0x115AF, 0x115B5, .extend), (0x115B8, 0x115C0, .extend), (0x115D8, 0x115DB, .letter),
  (0x115DC, 0x115DD, .extend), (0x11600, 0x1162F, .letter), (0x11630, 0x11640, .extend),
  (0x11644, 0x11644, .letter), (0x11650, 0x11659, .numeric), (0x11680, 0x116AA, .letter),
  (0x116AB, 0x116B7, .extend), (0x116B8, 0x116B8, .letter)]

private def wordRowsD : List (Nat × Nat × WordClass) := [
  (0x116C0, 0x116C9, .numeric), (0x116D0, 0x116E3, .numeric), (0x1171D, 0x1172B, .extend),
  (0x11730, 0x11739, .numeric), (0x11800, 0x1182B, .letter), (0x1182C, 0x1183A, .extend),
  (0x118A0, 0x118DF, .letter), (0x118E0, 0x118E9, .numeric), (0x118FF, 0x11906, .letter),
  (0x11909, 0x11909, .letter), (0x1190C, 0x11913, .letter), (0x11915, 0x11916, .letter),
  (0x11918, 0x1192F, .letter), (0x11930, 0x11935, .extend), (0x11937, 0x11938, .extend),
  (0x1193B, 0x1193E, .extend), (0x1193F, 0x1193F, .letter), (0x11940, 0x11940, .extend),
  (0x11941, 0x11941, .letter), (0x11942, 0x11943, .extend), (0x11950, 0x11959, .numeric),
  (0x119A0, 0x119A7, .letter), (0x119AA, 0x119D0, .letter), (0x119D1, 0x119D7, .extend),
  (0x119DA, 0x119E0, .extend), (0x119E1, 0x119E1, .letter), (0x119E3, 0x119E3, .letter),
  (0x119E4, 0x119E4, .extend), (0x11A00, 0x11A00, .letter), (0x11A01, 0x11A0A, .extend),
  (0x11A0B, 0x11A32, .letter), (0x11A33, 0x11A39, .extend), (0x11A3A, 0x11A3A, .letter),
  (0x11A3B, 0x11A3E, .extend), (0x11A47, 0x11A47, .extend), (0x11A50, 0x11A50, .letter),
  (0x11A51, 0x11A5B, .extend), (0x11A5C, 0x11A89, .letter), (0x11A8A, 0x11A99, .extend),
  (0x11A9D, 0x11A9D, .letter), (0x11AB0, 0x11AF8, .letter), (0x11B60, 0x11B67, .extend),
  (0x11BC0, 0x11BE0, .letter), (0x11BF0, 0x11BF9, .numeric), (0x11C00, 0x11C08, .letter),
  (0x11C0A, 0x11C2E, .letter), (0x11C2F, 0x11C36, .extend), (0x11C38, 0x11C3F, .extend),
  (0x11C40, 0x11C40, .letter), (0x11C50, 0x11C59, .numeric), (0x11C72, 0x11C8F, .letter),
  (0x11C92, 0x11CA7, .extend), (0x11CA9, 0x11CB6, .extend), (0x11D00, 0x11D06, .letter),
  (0x11D08, 0x11D09, .letter), (0x11D0B, 0x11D30, .letter), (0x11D31, 0x11D36, .extend),
  (0x11D3A, 0x11D3A, .extend), (0x11D3C, 0x11D3D, .extend), (0x11D3F, 0x11D45, .extend),
  (0x11D46, 0x11D46, .letter), (0x11D47, 0x11D47, .extend), (0x11D50, 0x11D59, .numeric),
  (0x11D60, 0x11D65, .letter), (0x11D67, 0x11D68, .letter), (0x11D6A, 0x11D89, .letter),
  (0x11D8A, 0x11D8E, .extend), (0x11D90, 0x11D91, .extend), (0x11D93, 0x11D97, .extend),
  (0x11D98, 0x11D98, .letter), (0x11DA0, 0x11DA9, .numeric), (0x11DB0, 0x11DDB, .letter),
  (0x11DE0, 0x11DE9, .numeric), (0x11EE0, 0x11EF2, .letter), (0x11EF3, 0x11EF6, .extend),
  (0x11F00, 0x11F01, .extend), (0x11F02, 0x11F02, .letter), (0x11F03, 0x11F03, .extend),
  (0x11F04, 0x11F10, .letter), (0x11F12, 0x11F33, .letter), (0x11F34, 0x11F3A, .extend),
  (0x11F3E, 0x11F42, .extend), (0x11F50, 0x11F59, .numeric), (0x11F5A, 0x11F5A, .extend),
  (0x11FB0, 0x11FB0, .letter), (0x12000, 0x12399, .letter), (0x12400, 0x1246E, .letter),
  (0x12480, 0x12543, .letter), (0x12F90, 0x12FF0, .letter), (0x13000, 0x1342F, .letter),
  (0x13430, 0x1343F, .format), (0x13440, 0x13440, .extend), (0x13441, 0x13446, .letter),
  (0x13447, 0x13455, .extend), (0x13460, 0x143FA, .letter), (0x14400, 0x14646, .letter),
  (0x16100, 0x1611D, .letter), (0x1611E, 0x1612F, .extend), (0x16130, 0x16139, .numeric),
  (0x16800, 0x16A38, .letter), (0x16A40, 0x16A5E, .letter), (0x16A60, 0x16A69, .numeric),
  (0x16A70, 0x16ABE, .letter), (0x16AC0, 0x16AC9, .numeric), (0x16AD0, 0x16AED, .letter),
  (0x16AF0, 0x16AF4, .extend), (0x16B00, 0x16B2F, .letter), (0x16B30, 0x16B36, .extend),
  (0x16B40, 0x16B43, .letter), (0x16B50, 0x16B59, .numeric), (0x16B63, 0x16B77, .letter),
  (0x16B7D, 0x16B8F, .letter), (0x16D40, 0x16D6C, .letter), (0x16D70, 0x16D79, .numeric),
  (0x16E40, 0x16E7F, .letter), (0x16EA0, 0x16EB8, .letter), (0x16EBB, 0x16ED3, .letter),
  (0x16F00, 0x16F4A, .letter), (0x16F4F, 0x16F4F, .extend), (0x16F50, 0x16F50, .letter),
  (0x16F51, 0x16F87, .extend), (0x16F8F, 0x16F92, .extend), (0x16F93, 0x16F9F, .letter),
  (0x16FE0, 0x16FE1, .letter), (0x16FE3, 0x16FE3, .letter), (0x16FE4, 0x16FE4, .extend),
  (0x16FF0, 0x16FF1, .extend), (0x1AFF0, 0x1AFF3, .katakana), (0x1AFF5, 0x1AFFB, .katakana),
  (0x1AFFD, 0x1AFFE, .katakana), (0x1B000, 0x1B000, .katakana), (0x1B120, 0x1B122, .katakana),
  (0x1B155, 0x1B155, .katakana), (0x1B164, 0x1B167, .katakana), (0x1BC00, 0x1BC6A, .letter),
  (0x1BC70, 0x1BC7C, .letter), (0x1BC80, 0x1BC88, .letter), (0x1BC90, 0x1BC99, .letter),
  (0x1BC9D, 0x1BC9E, .extend), (0x1BCA0, 0x1BCA3, .format), (0x1CCF0, 0x1CCF9, .numeric),
  (0x1CF00, 0x1CF2D, .extend), (0x1CF30, 0x1CF46, .extend), (0x1D165, 0x1D169, .extend),
  (0x1D16D, 0x1D172, .extend), (0x1D173, 0x1D17A, .format), (0x1D17B, 0x1D182, .extend),
  (0x1D185, 0x1D18B, .extend), (0x1D1AA, 0x1D1AD, .extend), (0x1D242, 0x1D244, .extend),
  (0x1D400, 0x1D454, .letter), (0x1D456, 0x1D49C, .letter), (0x1D49E, 0x1D49F, .letter),
  (0x1D4A2, 0x1D4A2, .letter), (0x1D4A5, 0x1D4A6, .letter), (0x1D4A9, 0x1D4AC, .letter),
  (0x1D4AE, 0x1D4B9, .letter), (0x1D4BB, 0x1D4BB, .letter), (0x1D4BD, 0x1D4C3, .letter),
  (0x1D4C5, 0x1D505, .letter), (0x1D507, 0x1D50A, .letter), (0x1D50D, 0x1D514, .letter),
  (0x1D516, 0x1D51C, .letter), (0x1D51E, 0x1D539, .letter), (0x1D53B, 0x1D53E, .letter),
  (0x1D540, 0x1D544, .letter), (0x1D546, 0x1D546, .letter), (0x1D54A, 0x1D550, .letter),
  (0x1D552, 0x1D6A5, .letter), (0x1D6A8, 0x1D6C0, .letter), (0x1D6C2, 0x1D6DA, .letter),
  (0x1D6DC, 0x1D6FA, .letter), (0x1D6FC, 0x1D714, .letter), (0x1D716, 0x1D734, .letter),
  (0x1D736, 0x1D74E, .letter), (0x1D750, 0x1D76E, .letter), (0x1D770, 0x1D788, .letter),
  (0x1D78A, 0x1D7A8, .letter), (0x1D7AA, 0x1D7C2, .letter), (0x1D7C4, 0x1D7CB, .letter),
  (0x1D7CE, 0x1D7FF, .numeric), (0x1DA00, 0x1DA36, .extend), (0x1DA3B, 0x1DA6C, .extend),
  (0x1DA75, 0x1DA75, .extend), (0x1DA84, 0x1DA84, .extend), (0x1DA9B, 0x1DA9F, .extend),
  (0x1DAA1, 0x1DAAF, .extend), (0x1DF00, 0x1DF1E, .letter), (0x1DF25, 0x1DF2A, .letter),
  (0x1E000, 0x1E006, .extend), (0x1E008, 0x1E018, .extend), (0x1E01B, 0x1E021, .extend),
  (0x1E023, 0x1E024, .extend), (0x1E026, 0x1E02A, .extend), (0x1E030, 0x1E06D, .letter),
  (0x1E08F, 0x1E08F, .extend), (0x1E100, 0x1E12C, .letter), (0x1E130, 0x1E136, .extend),
  (0x1E137, 0x1E13D, .letter), (0x1E140, 0x1E149, .numeric), (0x1E14E, 0x1E14E, .letter),
  (0x1E290, 0x1E2AD, .letter), (0x1E2AE, 0x1E2AE, .extend), (0x1E2C0, 0x1E2EB, .letter),
  (0x1E2EC, 0x1E2EF, .extend), (0x1E2F0, 0x1E2F9, .numeric), (0x1E4D0, 0x1E4EB, .letter),
  (0x1E4EC, 0x1E4EF, .extend), (0x1E4F0, 0x1E4F9, .numeric), (0x1E5D0, 0x1E5ED, .letter),
  (0x1E5EE, 0x1E5EF, .extend), (0x1E5F0, 0x1E5F0, .letter), (0x1E5F1, 0x1E5FA, .numeric),
  (0x1E6C0, 0x1E6DE, .letter), (0x1E6E0, 0x1E6E2, .letter), (0x1E6E3, 0x1E6E3, .extend),
  (0x1E6E4, 0x1E6E5, .letter), (0x1E6E6, 0x1E6E6, .extend), (0x1E6E7, 0x1E6ED, .letter),
  (0x1E6EE, 0x1E6EF, .extend), (0x1E6F0, 0x1E6F4, .letter), (0x1E6F5, 0x1E6F5, .extend),
  (0x1E6FE, 0x1E6FF, .letter), (0x1E7E0, 0x1E7E6, .letter), (0x1E7E8, 0x1E7EB, .letter),
  (0x1E7ED, 0x1E7EE, .letter), (0x1E7F0, 0x1E7FE, .letter), (0x1E800, 0x1E8C4, .letter),
  (0x1E8D0, 0x1E8D6, .extend), (0x1E900, 0x1E943, .letter), (0x1E944, 0x1E94A, .extend),
  (0x1E94B, 0x1E94B, .letter), (0x1E950, 0x1E959, .numeric), (0x1EE00, 0x1EE03, .letter),
  (0x1EE05, 0x1EE1F, .letter), (0x1EE21, 0x1EE22, .letter), (0x1EE24, 0x1EE24, .letter),
  (0x1EE27, 0x1EE27, .letter), (0x1EE29, 0x1EE32, .letter), (0x1EE34, 0x1EE37, .letter),
  (0x1EE39, 0x1EE39, .letter), (0x1EE3B, 0x1EE3B, .letter), (0x1EE42, 0x1EE42, .letter),
  (0x1EE47, 0x1EE47, .letter), (0x1EE49, 0x1EE49, .letter), (0x1EE4B, 0x1EE4B, .letter),
  (0x1EE4D, 0x1EE4F, .letter), (0x1EE51, 0x1EE52, .letter), (0x1EE54, 0x1EE54, .letter),
  (0x1EE57, 0x1EE57, .letter), (0x1EE59, 0x1EE59, .letter), (0x1EE5B, 0x1EE5B, .letter),
  (0x1EE5D, 0x1EE5D, .letter), (0x1EE5F, 0x1EE5F, .letter), (0x1EE61, 0x1EE62, .letter),
  (0x1EE64, 0x1EE64, .letter), (0x1EE67, 0x1EE6A, .letter), (0x1EE6C, 0x1EE72, .letter),
  (0x1EE74, 0x1EE77, .letter), (0x1EE79, 0x1EE7C, .letter), (0x1EE7E, 0x1EE7E, .letter),
  (0x1EE80, 0x1EE89, .letter), (0x1EE8B, 0x1EE9B, .letter), (0x1EEA1, 0x1EEA3, .letter),
  (0x1EEA5, 0x1EEA9, .letter), (0x1EEAB, 0x1EEBB, .letter), (0x1F130, 0x1F149, .letter),
  (0x1F150, 0x1F169, .letter), (0x1F170, 0x1F189, .letter), (0x1F1E6, 0x1F1FF, .regional),
  (0x1F3FB, 0x1F3FF, .extend), (0x1FBF0, 0x1FBF9, .numeric), (0xE0001, 0xE0001, .format),
  (0xE0020, 0xE007F, .extend), (0xE0100, 0xE01EF, .extend)]

/-- First and last character of a run, and the class they share; other characters are `other`. -/
def wordRows : List (Nat × Nat × WordClass) :=
  wordRowsA ++ wordRowsB ++ wordRowsC ++ wordRowsD

def pictographRanges : Ranges := [
  (0xA9, 0xA9), (0xAE, 0xAE), (0x203C, 0x203C), (0x2049, 0x2049), (0x2122, 0x2122),
  (0x2139, 0x2139), (0x2194, 0x2199), (0x21A9, 0x21AA), (0x231A, 0x231B), (0x2328, 0x2328),
  (0x23CF, 0x23CF), (0x23E9, 0x23F3), (0x23F8, 0x23FA), (0x24C2, 0x24C2), (0x25AA, 0x25AB),
  (0x25B6, 0x25B6), (0x25C0, 0x25C0), (0x25FB, 0x25FE), (0x2600, 0x2604), (0x260E, 0x260E),
  (0x2611, 0x2611), (0x2614, 0x2615), (0x2618, 0x2618), (0x261D, 0x261D), (0x2620, 0x2620),
  (0x2622, 0x2623), (0x2626, 0x2626), (0x262A, 0x262A), (0x262E, 0x262F), (0x2638, 0x263A),
  (0x2640, 0x2640), (0x2642, 0x2642), (0x2648, 0x2653), (0x265F, 0x2660), (0x2663, 0x2663),
  (0x2665, 0x2666), (0x2668, 0x2668), (0x267B, 0x267B), (0x267E, 0x267F), (0x2692, 0x2697),
  (0x2699, 0x2699), (0x269B, 0x269C), (0x26A0, 0x26A1), (0x26A7, 0x26A7), (0x26AA, 0x26AB),
  (0x26B0, 0x26B1), (0x26BD, 0x26BE), (0x26C4, 0x26C5), (0x26C8, 0x26C8), (0x26CE, 0x26CF),
  (0x26D1, 0x26D1), (0x26D3, 0x26D4), (0x26E9, 0x26EA), (0x26F0, 0x26F5), (0x26F7, 0x26FA),
  (0x26FD, 0x26FD), (0x2702, 0x2702), (0x2705, 0x2705), (0x2708, 0x270D), (0x270F, 0x270F),
  (0x2712, 0x2712), (0x2714, 0x2714), (0x2716, 0x2716), (0x271D, 0x271D), (0x2721, 0x2721),
  (0x2728, 0x2728), (0x2733, 0x2734), (0x2744, 0x2744), (0x2747, 0x2747), (0x274C, 0x274C),
  (0x274E, 0x274E), (0x2753, 0x2755), (0x2757, 0x2757), (0x2763, 0x2764), (0x2795, 0x2797),
  (0x27A1, 0x27A1), (0x27B0, 0x27B0), (0x27BF, 0x27BF), (0x2934, 0x2935), (0x2B05, 0x2B07),
  (0x2B1B, 0x2B1C), (0x2B50, 0x2B50), (0x2B55, 0x2B55), (0x3030, 0x3030), (0x303D, 0x303D),
  (0x3297, 0x3297), (0x3299, 0x3299), (0x1F004, 0x1F004), (0x1F02C, 0x1F02F), (0x1F094, 0x1F09F),
  (0x1F0AF, 0x1F0B0), (0x1F0C0, 0x1F0C0), (0x1F0CF, 0x1F0D0), (0x1F0F6, 0x1F0FF),
  (0x1F170, 0x1F171), (0x1F17E, 0x1F17F), (0x1F18E, 0x1F18E), (0x1F191, 0x1F19A),
  (0x1F1AE, 0x1F1E5), (0x1F201, 0x1F20F), (0x1F21A, 0x1F21A), (0x1F22F, 0x1F22F),
  (0x1F232, 0x1F23A), (0x1F23C, 0x1F23F), (0x1F249, 0x1F25F), (0x1F266, 0x1F321),
  (0x1F324, 0x1F393), (0x1F396, 0x1F397), (0x1F399, 0x1F39B), (0x1F39E, 0x1F3F0),
  (0x1F3F3, 0x1F3F5), (0x1F3F7, 0x1F3FA), (0x1F400, 0x1F4FD), (0x1F4FF, 0x1F53D),
  (0x1F549, 0x1F54E), (0x1F550, 0x1F567), (0x1F56F, 0x1F570), (0x1F573, 0x1F57A),
  (0x1F587, 0x1F587), (0x1F58A, 0x1F58D), (0x1F590, 0x1F590), (0x1F595, 0x1F596),
  (0x1F5A4, 0x1F5A5), (0x1F5A8, 0x1F5A8), (0x1F5B1, 0x1F5B2), (0x1F5BC, 0x1F5BC),
  (0x1F5C2, 0x1F5C4), (0x1F5D1, 0x1F5D3), (0x1F5DC, 0x1F5DE), (0x1F5E1, 0x1F5E1),
  (0x1F5E3, 0x1F5E3), (0x1F5E8, 0x1F5E8), (0x1F5EF, 0x1F5EF), (0x1F5F3, 0x1F5F3),
  (0x1F5FA, 0x1F64F), (0x1F680, 0x1F6C5), (0x1F6CB, 0x1F6D2), (0x1F6D5, 0x1F6E5),
  (0x1F6E9, 0x1F6E9), (0x1F6EB, 0x1F6F0), (0x1F6F3, 0x1F6FF), (0x1F7DA, 0x1F7FF),
  (0x1F80C, 0x1F80F), (0x1F848, 0x1F84F), (0x1F85A, 0x1F85F), (0x1F888, 0x1F88F),
  (0x1F8AE, 0x1F8AF), (0x1F8BC, 0x1F8BF), (0x1F8C2, 0x1F8CF), (0x1F8D9, 0x1F8FF),
  (0x1F90C, 0x1F93A), (0x1F93C, 0x1F945), (0x1F947, 0x1F9FF), (0x1FA58, 0x1FA5F),
  (0x1FA6E, 0x1FAFF), (0x1FC00, 0x1FFFD)]

end Dossier.Text
