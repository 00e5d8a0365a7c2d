import Dossier.Text.Table

/-!
Compatibility decompositions: ligatures, widths, fonts, circled and squared forms. Data of
Unicode 17, and modifier letters and kana digraphs that came later.
-/

namespace Dossier.Text

private def compatibleSpansA : List (Span (List Nat)) := [
  ⟨0xA0, 0xA0, [[0x20]]⟩,
  ⟨0xA8, 0xA8, [[0x20, 0x308]]⟩,
  ⟨0xAA, 0xAA, [[0x61]]⟩,
  ⟨0xAF, 0xAF, [[0x20, 0x304]]⟩,
  ⟨0xB2, 0xB5, [[0x32], [0x33], [0x20, 0x301], [0x3BC]]⟩,
  ⟨0xB8, 0xBA, [[0x20, 0x327], [0x31], [0x6F]]⟩,
  ⟨0xBC, 0xBE, [[0x31, 0x2044, 0x34], [0x31, 0x2044, 0x32], [0x33, 0x2044, 0x34]]⟩,
  ⟨0x132, 0x133, [[0x49, 0x4A], [0x69, 0x6A]]⟩,
  ⟨0x13F, 0x140, [[0x4C, 0xB7], [0x6C, 0xB7]]⟩,
  ⟨0x149, 0x149, [[0x2BC, 0x6E]]⟩,
  ⟨0x17F, 0x17F, [[0x73]]⟩,
  ⟨0x1C4, 0x1CC, [
    [0x44, 0x17D], [0x44, 0x17E], [0x64, 0x17E], [0x4C, 0x4A], [0x4C, 0x6A], [0x6C, 0x6A],
    [0x4E, 0x4A], [0x4E, 0x6A], [0x6E, 0x6A]]⟩,
  ⟨0x1F1, 0x1F3, [[0x44, 0x5A], [0x44, 0x7A], [0x64, 0x7A]]⟩,
  ⟨0x2B0, 0x2B8, [[0x68], [0x266], [0x6A], [0x72], [0x279], [0x27B], [0x281], [0x77], [0x79]]⟩,
  ⟨0x2D8, 0x2DD, [
    [0x20, 0x306], [0x20, 0x307], [0x20, 0x30A], [0x20, 0x328], [0x20, 0x303], [0x20, 0x30B]]⟩,
  ⟨0x2E0, 0x2E4, [[0x263], [0x6C], [0x73], [0x78], [0x295]]⟩,
  ⟨0x37A, 0x37A, [[0x20, 0x345]]⟩,
  ⟨0x384, 0x384, [[0x20, 0x301]]⟩,
  ⟨0x3D0, 0x3D2, [[0x3B2], [0x3B8], [0x3A5]]⟩,
  ⟨0x3D5, 0x3D6, [[0x3C6], [0x3C0]]⟩,
  ⟨0x3F0, 0x3F2, [[0x3BA], [0x3C1], [0x3C2]]⟩,
  ⟨0x3F4, 0x3F5, [[0x398], [0x3B5]]⟩,
  ⟨0x3F9, 0x3F9, [[0x3A3]]⟩,
  ⟨0x558, 0x558, [[0x567]]⟩,
  ⟨0x587, 0x587, [[0x565, 0x582]]⟩,
  ⟨0x58B, 0x58C, [[0x56B], [0x575]]⟩,
  ⟨0x675, 0x678, [[0x627, 0x674], [0x648, 0x674], [0x6C7, 0x674], [0x64A, 0x674]]⟩,
  ⟨0xE33, 0xE33, [[0xE4D, 0xE32]]⟩,
  ⟨0xEB3, 0xEB3, [[0xECD, 0xEB2]]⟩,
  ⟨0xEDC, 0xEDD, [[0xEAB, 0xE99], [0xEAB, 0xEA1]]⟩,
  ⟨0xF0C, 0xF0C, [[0xF0B]]⟩,
  ⟨0xF77, 0xF77, [[0xFB2, 0xF81]]⟩,
  ⟨0xF79, 0xF79, [[0xFB3, 0xF81]]⟩,
  ⟨0x10FC, 0x10FC, [[0x10DC]]⟩,
  ⟨0x1D2C, 0x1D2E, [[0x41], [0xC6], [0x42]]⟩,
  ⟨0x1D30, 0x1D3A, [
    [0x44], [0x45], [0x18E], [0x47], [0x48], [0x49], [0x4A], [0x4B], [0x4C], [0x4D], [0x4E]]⟩,
  ⟨0x1D3C, 0x1D4D, [
    [0x4F], [0x222], [0x50], [0x52], [0x54], [0x55], [0x57], [0x61], [0x250], [0x251], [0x1D02],
    [0x62], [0x64], [0x65], [0x259], [0x25B], [0x25C], [0x67]]⟩,
  ⟨0x1D4F, 0x1D6A, [
    [0x6B], [0x6D], [0x14B], [0x6F], [0x254], [0x1D16], [0x1D17], [0x70], [0x74], [0x75], [0x1D1D],
    [0x26F], [0x76], [0x1D25], [0x3B2], [0x3B3], [0x3B4], [0x3C6], [0x3C7], [0x69], [0x72], [0x75],
    [0x76], [0x3B2], [0x3B3], [0x3C1], [0x3C6], [0x3C7]]⟩,
  ⟨0x1D78, 0x1D78, [[0x43D]]⟩,
  ⟨0x1D9B, 0x1DBF, [
    [0x252], [0x63], [0x255], [0xF0], [0x25C], [0x66], [0x25F], [0x261], [0x265], [0x268], [0x269],
    [0x26A], [0x1D7B], [0x29D], [0x26D], [0x1D85], [0x29F], [0x271], [0x270], [0x272], [0x273],
    [0x274], [0x275], [0x278], [0x282], [0x283], [0x1AB], [0x289], [0x28A], [0x1D1C], [0x28B],
    [0x28C], [0x7A], [0x290], [0x291], [0x292], [0x3B8]]⟩,
  ⟨0x1E9A, 0x1E9A, [[0x61, 0x2BE]]⟩,
  ⟨0x1FBD, 0x1FBD, [[0x20, 0x313]]⟩,
  ⟨0x1FBF, 0x1FC0, [[0x20, 0x313], [0x20, 0x342]]⟩,
  ⟨0x1FFE, 0x1FFE, [[0x20, 0x314]]⟩,
  ⟨0x2002, 0x200A, [[0x20], [0x20], [0x20], [0x20], [0x20], [0x20], [0x20], [0x20], [0x20]]⟩,
  ⟨0x2011, 0x2011, [[0x2010]]⟩,
  ⟨0x2017, 0x2017, [[0x20, 0x333]]⟩,
  ⟨0x2024, 0x2026, [[0x2E], [0x2E, 0x2E], [0x2E, 0x2E, 0x2E]]⟩,
  ⟨0x202F, 0x202F, [[0x20]]⟩,
  ⟨0x2033, 0x2034, [[0x2032, 0x2032], [0x2032, 0x2032, 0x2032]]⟩,
  ⟨0x2036, 0x2037, [[0x2035, 0x2035], [0x2035, 0x2035, 0x2035]]⟩,
  ⟨0x203C, 0x203C, [[0x21, 0x21]]⟩,
  ⟨0x203E, 0x203E, [[0x20, 0x305]]⟩,
  ⟨0x2047, 0x2049, [[0x3F, 0x3F], [0x3F, 0x21], [0x21, 0x3F]]⟩,
  ⟨0x2057, 0x2057, [[0x2032, 0x2032, 0x2032, 0x2032]]⟩,
  ⟨0x205F, 0x205F, [[0x20]]⟩,
  ⟨0x2070, 0x2071, [[0x30], [0x69]]⟩,
  ⟨0x2074, 0x208E, [
    [0x34], [0x35], [0x36], [0x37], [0x38], [0x39], [0x2B], [0x2212], [0x3D], [0x28], [0x29],
    [0x6E], [0x30], [0x31], [0x32], [0x33], [0x34], [0x35], [0x36], [0x37], [0x38], [0x39], [0x2B],
    [0x2212], [0x3D], [0x28], [0x29]]⟩,
  ⟨0x2090, 0x209C, [
    [0x61], [0x65], [0x6F], [0x78], [0x259], [0x68], [0x6B], [0x6C], [0x6D], [0x6E], [0x70], [0x73],
    [0x74]]⟩,
  ⟨0x20A8, 0x20A8, [[0x52, 0x73]]⟩,
  ⟨0x2100, 0x2103, [[0x61, 0x2F, 0x63], [0x61, 0x2F, 0x73], [0x43], [0xB0, 0x43]]⟩,
  ⟨0x2105, 0x2107, [[0x63, 0x2F, 0x6F], [0x63, 0x2F, 0x75], [0x190]]⟩,
  ⟨0x2109, 0x2113, [
    [0xB0, 0x46], [0x67], [0x48], [0x48], [0x48], [0x68], [0x127], [0x49], [0x49], [0x4C], [0x6C]]⟩,
  ⟨0x2115, 0x2116, [[0x4E], [0x4E, 0x6F]]⟩,
  ⟨0x2119, 0x211D, [[0x50], [0x51], [0x52], [0x52], [0x52]]⟩,
  ⟨0x2120, 0x2122, [[0x53, 0x4D], [0x54, 0x45, 0x4C], [0x54, 0x4D]]⟩,
  ⟨0x2124, 0x2124, [[0x5A]]⟩,
  ⟨0x2128, 0x2128, [[0x5A]]⟩,
  ⟨0x212C, 0x212D, [[0x42], [0x43]]⟩,
  ⟨0x212F, 0x2131, [[0x65], [0x45], [0x46]]⟩,
  ⟨0x2133, 0x2139, [[0x4D], [0x6F], [0x5D0], [0x5D1], [0x5D2], [0x5D3], [0x69]]⟩,
  ⟨0x213B, 0x2140, [[0x46, 0x41, 0x58], [0x3C0], [0x3B3], [0x393], [0x3A0], [0x2211]]⟩,
  ⟨0x2145, 0x2149, [[0x44], [0x64], [0x65], [0x69], [0x6A]]⟩,
  ⟨0x2150, 0x217F, [
    [0x31, 0x2044, 0x37], [0x31, 0x2044, 0x39], [0x31, 0x2044, 0x31, 0x30], [0x31, 0x2044, 0x33],
    [0x32, 0x2044, 0x33], [0x31, 0x2044, 0x35], [0x32, 0x2044, 0x35], [0x33, 0x2044, 0x35],
    [0x34, 0x2044, 0x35], [0x31, 0x2044, 0x36], [0x35, 0x2044, 0x36], [0x31, 0x2044, 0x38],
    [0x33, 0x2044, 0x38], [0x35, 0x2044, 0x38], [0x37, 0x2044, 0x38], [0x31, 0x2044], [0x49],
    [0x49, 0x49], [0x49, 0x49, 0x49], [0x49, 0x56], [0x56], [0x56, 0x49], [0x56, 0x49, 0x49],
    [0x56, 0x49, 0x49, 0x49], [0x49, 0x58], [0x58], [0x58, 0x49], [0x58, 0x49, 0x49], [0x4C],
    [0x43], [0x44], [0x4D], [0x69], [0x69, 0x69], [0x69, 0x69, 0x69], [0x69, 0x76], [0x76],
    [0x76, 0x69], [0x76, 0x69, 0x69], [0x76, 0x69, 0x69, 0x69], [0x69, 0x78], [0x78], [0x78, 0x69],
    [0x78, 0x69, 0x69], [0x6C], [0x63], [0x64], [0x6D]]⟩,
  ⟨0x2189, 0x2189, [[0x30, 0x2044, 0x33]]⟩,
  ⟨0x222C, 0x222D, [[0x222B, 0x222B], [0x222B, 0x222B, 0x222B]]⟩,
  ⟨0x222F, 0x2230, [[0x222E, 0x222E], [0x222E, 0x222E, 0x222E]]⟩]

private def compatibleSpansB : List (Span (List Nat)) := [
  ⟨0x2460, 0x24AF, [
    [0x31], [0x32], [0x33], [0x34], [0x35], [0x36], [0x37], [0x38], [0x39], [0x31, 0x30],
    [0x31, 0x31], [0x31, 0x32], [0x31, 0x33], [0x31, 0x34], [0x31, 0x35], [0x31, 0x36],
    [0x31, 0x37], [0x31, 0x38], [0x31, 0x39], [0x32, 0x30], [0x28, 0x31, 0x29], [0x28, 0x32, 0x29],
    [0x28, 0x33, 0x29], [0x28, 0x34, 0x29], [0x28, 0x35, 0x29], [0x28, 0x36, 0x29],
    [0x28, 0x37, 0x29], [0x28, 0x38, 0x29], [0x28, 0x39, 0x29], [0x28, 0x31, 0x30, 0x29],
    [0x28, 0x31, 0x31, 0x29], [0x28, 0x31, 0x32, 0x29], [0x28, 0x31, 0x33, 0x29],
    [0x28, 0x31, 0x34, 0x29], [0x28, 0x31, 0x35, 0x29], [0x28, 0x31, 0x36, 0x29],
    [0x28, 0x31, 0x37, 0x29], [0x28, 0x31, 0x38, 0x29], [0x28, 0x31, 0x39, 0x29],
    [0x28, 0x32, 0x30, 0x29], [0x31, 0x2E], [0x32, 0x2E], [0x33, 0x2E], [0x34, 0x2E], [0x35, 0x2E],
    [0x36, 0x2E], [0x37, 0x2E], [0x38, 0x2E], [0x39, 0x2E], [0x31, 0x30, 0x2E], [0x31, 0x31, 0x2E],
    [0x31, 0x32, 0x2E], [0x31, 0x33, 0x2E], [0x31, 0x34, 0x2E], [0x31, 0x35, 0x2E],
    [0x31, 0x36, 0x2E], [0x31, 0x37, 0x2E], [0x31, 0x38, 0x2E], [0x31, 0x39, 0x2E],
    [0x32, 0x30, 0x2E], [0x28, 0x61, 0x29], [0x28, 0x62, 0x29], [0x28, 0x63, 0x29],
    [0x28, 0x64, 0x29], [0x28, 0x65, 0x29], [0x28, 0x66, 0x29], [0x28, 0x67, 0x29],
    [0x28, 0x68, 0x29], [0x28, 0x69, 0x29], [0x28, 0x6A, 0x29], [0x28, 0x6B, 0x29],
    [0x28, 0x6C, 0x29], [0x28, 0x6D, 0x29], [0x28, 0x6E, 0x29], [0x28, 0x6F, 0x29],
    [0x28, 0x70, 0x29], [0x28, 0x71, 0x29], [0x28, 0x72, 0x29], [0x28, 0x73, 0x29],
    [0x28, 0x74, 0x29]]⟩,
  ⟨0x24B0, 0x24EA, [
    [0x28, 0x75, 0x29], [0x28, 0x76, 0x29], [0x28, 0x77, 0x29], [0x28, 0x78, 0x29],
    [0x28, 0x79, 0x29], [0x28, 0x7A, 0x29], [0x41], [0x42], [0x43], [0x44], [0x45], [0x46], [0x47],
    [0x48], [0x49], [0x4A], [0x4B], [0x4C], [0x4D], [0x4E], [0x4F], [0x50], [0x51], [0x52], [0x53],
    [0x54], [0x55], [0x56], [0x57], [0x58], [0x59], [0x5A], [0x61], [0x62], [0x63], [0x64], [0x65],
    [0x66], [0x67], [0x68], [0x69], [0x6A], [0x6B], [0x6C], [0x6D], [0x6E], [0x6F], [0x70], [0x71],
    [0x72], [0x73], [0x74], [0x75], [0x76], [0x77], [0x78], [0x79], [0x7A], [0x30]]⟩,
  ⟨0x2A0C, 0x2A0C, [[0x222B, 0x222B, 0x222B, 0x222B]]⟩,
  ⟨0x2A74, 0x2A76, [[0x3A, 0x3A, 0x3D], [0x3D, 0x3D], [0x3D, 0x3D, 0x3D]]⟩,
  ⟨0x2C7C, 0x2C7D, [[0x6A], [0x56]]⟩,
  ⟨0x2D6F, 0x2D6F, [[0x2D61]]⟩,
  ⟨0x2E9F, 0x2E9F, [[0x6BCD]]⟩,
  ⟨0x2EF3, 0x2EF3, [[0x9F9F]]⟩,
  ⟨0x2F00, 0x2F4F, [
    [0x4E00], [0x4E28], [0x4E36], [0x4E3F], [0x4E59], [0x4E85], [0x4E8C], [0x4EA0], [0x4EBA],
    [0x513F], [0x5165], [0x516B], [0x5182], [0x5196], [0x51AB], [0x51E0], [0x51F5], [0x5200],
    [0x529B], [0x52F9], [0x5315], [0x531A], [0x5338], [0x5341], [0x535C], [0x5369], [0x5382],
    [0x53B6], [0x53C8], [0x53E3], [0x56D7], [0x571F], [0x58EB], [0x5902], [0x590A], [0x5915],
    [0x5927], [0x5973], [0x5B50], [0x5B80], [0x5BF8], [0x5C0F], [0x5C22], [0x5C38], [0x5C6E],
    [0x5C71], [0x5DDB], [0x5DE5], [0x5DF1], [0x5DFE], [0x5E72], [0x5E7A], [0x5E7F], [0x5EF4],
    [0x5EFE], [0x5F0B], [0x5F13], [0x5F50], [0x5F61], [0x5F73], [0x5FC3], [0x6208], [0x6236],
    [0x624B], [0x652F], [0x6534], [0x6587], [0x6597], [0x65A4], [0x65B9], [0x65E0], [0x65E5],
    [0x66F0], [0x6708], [0x6728], [0x6B20], [0x6B62], [0x6B79], [0x6BB3], [0x6BCB]]⟩,
  ⟨0x2F50, 0x2F9F, [
    [0x6BD4], [0x6BDB], [0x6C0F], [0x6C14], [0x6C34], [0x706B], [0x722A], [0x7236], [0x723B],
    [0x723F], [0x7247], [0x7259], [0x725B], [0x72AC], [0x7384], [0x7389], [0x74DC], [0x74E6],
    [0x7518], [0x751F], [0x7528], [0x7530], [0x758B], [0x7592], [0x7676], [0x767D], [0x76AE],
    [0x76BF], [0x76EE], [0x77DB], [0x77E2], [0x77F3], [0x793A], [0x79B8], [0x79BE], [0x7A74],
    [0x7ACB], [0x7AF9], [0x7C73], [0x7CF8], [0x7F36], [0x7F51], [0x7F8A], [0x7FBD], [0x8001],
    [0x800C], [0x8012], [0x8033], [0x807F], [0x8089], [0x81E3], [0x81EA], [0x81F3], [0x81FC],
    [0x820C], [0x821B], [0x821F], [0x826E], [0x8272], [0x8278], [0x864D], [0x866B], [0x8840],
    [0x884C], [0x8863], [0x897E], [0x898B], [0x89D2], [0x8A00], [0x8C37], [0x8C46], [0x8C55],
    [0x8C78], [0x8C9D], [0x8D64], [0x8D70], [0x8DB3], [0x8EAB], [0x8ECA], [0x8F9B]]⟩,
  ⟨0x2FA0, 0x2FD5, [
    [0x8FB0], [0x8FB5], [0x9091], [0x9149], [0x91C6], [0x91CC], [0x91D1], [0x9577], [0x9580],
    [0x961C], [0x96B6], [0x96B9], [0x96E8], [0x9751], [0x975E], [0x9762], [0x9769], [0x97CB],
    [0x97ED], [0x97F3], [0x9801], [0x98A8], [0x98DB], [0x98DF], [0x9996], [0x9999], [0x99AC],
    [0x9AA8], [0x9AD8], [0x9ADF], [0x9B25], [0x9B2F], [0x9B32], [0x9B3C], [0x9B5A], [0x9CE5],
    [0x9E75], [0x9E7F], [0x9EA5], [0x9EBB], [0x9EC3], [0x9ECD], [0x9ED1], [0x9EF9], [0x9EFD],
    [0x9F0E], [0x9F13], [0x9F20], [0x9F3B], [0x9F4A], [0x9F52], [0x9F8D], [0x9F9C], [0x9FA0]]⟩,
  ⟨0x3000, 0x3000, [[0x20]]⟩,
  ⟨0x3036, 0x3036, [[0x3012]]⟩,
  ⟨0x3038, 0x303A, [[0x5341], [0x5344], [0x5345]]⟩,
  ⟨0x309B, 0x309C, [[0x20, 0x3099], [0x20, 0x309A]]⟩,
  ⟨0x309F, 0x309F, [[0x3088, 0x308A]]⟩,
  ⟨0x30FF, 0x30FF, [[0x30B3, 0x30C8]]⟩]

private def compatibleSpansC : List (Span (List Nat)) := [
  ⟨0x3131, 0x3180, [
    [0x1100], [0x1101], [0x11AA], [0x1102], [0x11AC], [0x11AD], [0x1103], [0x1104], [0x1105],
    [0x11B0], [0x11B1], [0x11B2], [0x11B3], [0x11B4], [0x11B5], [0x111A], [0x1106], [0x1107],
    [0x1108], [0x1121], [0x1109], [0x110A], [0x110B], [0x110C], [0x110D], [0x110E], [0x110F],
    [0x1110], [0x1111], [0x1112], [0x1161], [0x1162], [0x1163], [0x1164], [0x1165], [0x1166],
    [0x1167], [0x1168], [0x1169], [0x116A], [0x116B], [0x116C], [0x116D], [0x116E], [0x116F],
    [0x1170], [0x1171], [0x1172], [0x1173], [0x1174], [0x1175], [0x1160], [0x1114], [0x1115],
    [0x11C7], [0x11C8], [0x11CC], [0x11CE], [0x11D3], [0x11D7], [0x11D9], [0x111C], [0x11DD],
    [0x11DF], [0x111D], [0x111E], [0x1120], [0x1122], [0x1123], [0x1127], [0x1129], [0x112B],
    [0x112C], [0x112D], [0x112E], [0x112F], [0x1132], [0x1136], [0x1140], [0x1147]]⟩,
  ⟨0x3181, 0x318E, [
    [0x114C], [0x11F1], [0x11F2], [0x1157], [0x1158], [0x1159], [0x1184], [0x1185], [0x1188],
    [0x1191], [0x1192], [0x1194], [0x119E], [0x11A1]]⟩,
  ⟨0x3192, 0x319F, [
    [0x4E00], [0x4E8C], [0x4E09], [0x56DB], [0x4E0A], [0x4E2D], [0x4E0B], [0x7532], [0x4E59],
    [0x4E19], [0x4E01], [0x5929], [0x5730], [0x4EBA]]⟩,
  ⟨0x3200, 0x321E, [
    [0x28, 0x1100, 0x29], [0x28, 0x1102, 0x29], [0x28, 0x1103, 0x29], [0x28, 0x1105, 0x29],
    [0x28, 0x1106, 0x29], [0x28, 0x1107, 0x29], [0x28, 0x1109, 0x29], [0x28, 0x110B, 0x29],
    [0x28, 0x110C, 0x29], [0x28, 0x110E, 0x29], [0x28, 0x110F, 0x29], [0x28, 0x1110, 0x29],
    [0x28, 0x1111, 0x29], [0x28, 0x1112, 0x29], [0x28, 0x1100, 0x1161, 0x29],
    [0x28, 0x1102, 0x1161, 0x29], [0x28, 0x1103, 0x1161, 0x29], [0x28, 0x1105, 0x1161, 0x29],
    [0x28, 0x1106, 0x1161, 0x29], [0x28, 0x1107, 0x1161, 0x29], [0x28, 0x1109, 0x1161, 0x29],
    [0x28, 0x110B, 0x1161, 0x29], [0x28, 0x110C, 0x1161, 0x29], [0x28, 0x110E, 0x1161, 0x29],
    [0x28, 0x110F, 0x1161, 0x29], [0x28, 0x1110, 0x1161, 0x29], [0x28, 0x1111, 0x1161, 0x29],
    [0x28, 0x1112, 0x1161, 0x29], [0x28, 0x110C, 0x116E, 0x29],
    [0x28, 0x110B, 0x1169, 0x110C, 0x1165, 0x11AB, 0x29],
    [0x28, 0x110B, 0x1169, 0x1112, 0x116E, 0x29]]⟩,
  ⟨0x3220, 0x3247, [
    [0x28, 0x4E00, 0x29], [0x28, 0x4E8C, 0x29], [0x28, 0x4E09, 0x29], [0x28, 0x56DB, 0x29],
    [0x28, 0x4E94, 0x29], [0x28, 0x516D, 0x29], [0x28, 0x4E03, 0x29], [0x28, 0x516B, 0x29],
    [0x28, 0x4E5D, 0x29], [0x28, 0x5341, 0x29], [0x28, 0x6708, 0x29], [0x28, 0x706B, 0x29],
    [0x28, 0x6C34, 0x29], [0x28, 0x6728, 0x29], [0x28, 0x91D1, 0x29], [0x28, 0x571F, 0x29],
    [0x28, 0x65E5, 0x29], [0x28, 0x682A, 0x29], [0x28, 0x6709, 0x29], [0x28, 0x793E, 0x29],
    [0x28, 0x540D, 0x29], [0x28, 0x7279, 0x29], [0x28, 0x8CA1, 0x29], [0x28, 0x795D, 0x29],
    [0x28, 0x52B4, 0x29], [0x28, 0x4EE3, 0x29], [0x28, 0x547C, 0x29], [0x28, 0x5B66, 0x29],
    [0x28, 0x76E3, 0x29], [0x28, 0x4F01, 0x29], [0x28, 0x8CC7, 0x29], [0x28, 0x5354, 0x29],
    [0x28, 0x796D, 0x29], [0x28, 0x4F11, 0x29], [0x28, 0x81EA, 0x29], [0x28, 0x81F3, 0x29],
    [0x554F], [0x5E7C], [0x6587], [0x7B8F]]⟩,
  ⟨0x3250, 0x327E, [
    [0x50, 0x54, 0x45], [0x32, 0x31], [0x32, 0x32], [0x32, 0x33], [0x32, 0x34], [0x32, 0x35],
    [0x32, 0x36], [0x32, 0x37], [0x32, 0x38], [0x32, 0x39], [0x33, 0x30], [0x33, 0x31],
    [0x33, 0x32], [0x33, 0x33], [0x33, 0x34], [0x33, 0x35], [0x1100], [0x1102], [0x1103], [0x1105],
    [0x1106], [0x1107], [0x1109], [0x110B], [0x110C], [0x110E], [0x110F], [0x1110], [0x1111],
    [0x1112], [0x1100, 0x1161], [0x1102, 0x1161], [0x1103, 0x1161], [0x1105, 0x1161],
    [0x1106, 0x1161], [0x1107, 0x1161], [0x1109, 0x1161], [0x110B, 0x1161], [0x110C, 0x1161],
    [0x110E, 0x1161], [0x110F, 0x1161], [0x1110, 0x1161], [0x1111, 0x1161], [0x1112, 0x1161],
    [0x110E, 0x1161, 0x11B7, 0x1100, 0x1169], [0x110C, 0x116E, 0x110B, 0x1174], [0x110B, 0x116E]]⟩,
  ⟨0x3280, 0x32CF, [
    [0x4E00], [0x4E8C], [0x4E09], [0x56DB], [0x4E94], [0x516D], [0x4E03], [0x516B], [0x4E5D],
    [0x5341], [0x6708], [0x706B], [0x6C34], [0x6728], [0x91D1], [0x571F], [0x65E5], [0x682A],
    [0x6709], [0x793E], [0x540D], [0x7279], [0x8CA1], [0x795D], [0x52B4], [0x79D8], [0x7537],
    [0x5973], [0x9069], [0x512A], [0x5370], [0x6CE8], [0x9805], [0x4F11], [0x5199], [0x6B63],
    [0x4E0A], [0x4E2D], [0x4E0B], [0x5DE6], [0x53F3], [0x533B], [0x5B97], [0x5B66], [0x76E3],
    [0x4F01], [0x8CC7], [0x5354], [0x591C], [0x33, 0x36], [0x33, 0x37], [0x33, 0x38], [0x33, 0x39],
    [0x34, 0x30], [0x34, 0x31], [0x34, 0x32], [0x34, 0x33], [0x34, 0x34], [0x34, 0x35],
    [0x34, 0x36], [0x34, 0x37], [0x34, 0x38], [0x34, 0x39], [0x35, 0x30], [0x31, 0x6708],
    [0x32, 0x6708], [0x33, 0x6708], [0x34, 0x6708], [0x35, 0x6708], [0x36, 0x6708], [0x37, 0x6708],
    [0x38, 0x6708], [0x39, 0x6708], [0x31, 0x30, 0x6708], [0x31, 0x31, 0x6708],
    [0x31, 0x32, 0x6708], [0x48, 0x67], [0x65, 0x72, 0x67], [0x65, 0x56], [0x4C, 0x54, 0x44]]⟩,
  ⟨0x32D0, 0x331F, [
    [0x30A2], [0x30A4], [0x30A6], [0x30A8], [0x30AA], [0x30AB], [0x30AD], [0x30AF], [0x30B1],
    [0x30B3], [0x30B5], [0x30B7], [0x30B9], [0x30BB], [0x30BD], [0x30BF], [0x30C1], [0x30C4],
    [0x30C6], [0x30C8], [0x30CA], [0x30CB], [0x30CC], [0x30CD], [0x30CE], [0x30CF], [0x30D2],
    [0x30D5], [0x30D8], [0x30DB], [0x30DE], [0x30DF], [0x30E0], [0x30E1], [0x30E2], [0x30E4],
    [0x30E6], [0x30E8], [0x30E9], [0x30EA], [0x30EB], [0x30EC], [0x30ED], [0x30EF], [0x30F0],
    [0x30F1], [0x30F2], [0x4EE4, 0x548C], [0x30A2, 0x30D1, 0x30FC, 0x30C8],
    [0x30A2, 0x30EB, 0x30D5, 0x30A1], [0x30A2, 0x30F3, 0x30DA, 0x30A2], [0x30A2, 0x30FC, 0x30EB],
    [0x30A4, 0x30CB, 0x30F3, 0x30B0], [0x30A4, 0x30F3, 0x30C1], [0x30A6, 0x30A9, 0x30F3],
    [0x30A8, 0x30B9, 0x30AF, 0x30FC, 0x30C9], [0x30A8, 0x30FC, 0x30AB, 0x30FC],
    [0x30AA, 0x30F3, 0x30B9], [0x30AA, 0x30FC, 0x30E0], [0x30AB, 0x30A4, 0x30EA],
    [0x30AB, 0x30E9, 0x30C3, 0x30C8], [0x30AB, 0x30ED, 0x30EA, 0x30FC], [0x30AC, 0x30ED, 0x30F3],
    [0x30AC, 0x30F3, 0x30DE], [0x30AE, 0x30AC], [0x30AE, 0x30CB, 0x30FC],
    [0x30AD, 0x30E5, 0x30EA, 0x30FC], [0x30AE, 0x30EB, 0x30C0, 0x30FC], [0x30AD, 0x30ED],
    [0x30AD, 0x30ED, 0x30B0, 0x30E9, 0x30E0], [0x30AD, 0x30ED, 0x30E1, 0x30FC, 0x30C8, 0x30EB],
    [0x30AD, 0x30ED, 0x30EF, 0x30C3, 0x30C8], [0x30B0, 0x30E9, 0x30E0],
    [0x30B0, 0x30E9, 0x30E0, 0x30C8, 0x30F3], [0x30AF, 0x30EB, 0x30BC, 0x30A4, 0x30ED],
    [0x30AF, 0x30ED, 0x30FC, 0x30CD], [0x30B1, 0x30FC, 0x30B9], [0x30B3, 0x30EB, 0x30CA],
    [0x30B3, 0x30FC, 0x30DD], [0x30B5, 0x30A4, 0x30AF, 0x30EB]]⟩]

private def compatibleSpansD : List (Span (List Nat)) := [
  ⟨0x3320, 0x336F, [
    [0x30B5, 0x30F3, 0x30C1, 0x30FC, 0x30E0], [0x30B7, 0x30EA, 0x30F3, 0x30B0],
    [0x30BB, 0x30F3, 0x30C1], [0x30BB, 0x30F3, 0x30C8], [0x30C0, 0x30FC, 0x30B9], [0x30C7, 0x30B7],
    [0x30C9, 0x30EB], [0x30C8, 0x30F3], [0x30CA, 0x30CE], [0x30CE, 0x30C3, 0x30C8],
    [0x30CF, 0x30A4, 0x30C4], [0x30D1, 0x30FC, 0x30BB, 0x30F3, 0x30C8], [0x30D1, 0x30FC, 0x30C4],
    [0x30D0, 0x30FC, 0x30EC, 0x30EB], [0x30D4, 0x30A2, 0x30B9, 0x30C8, 0x30EB],
    [0x30D4, 0x30AF, 0x30EB], [0x30D4, 0x30B3], [0x30D3, 0x30EB],
    [0x30D5, 0x30A1, 0x30E9, 0x30C3, 0x30C9], [0x30D5, 0x30A3, 0x30FC, 0x30C8],
    [0x30D6, 0x30C3, 0x30B7, 0x30A7, 0x30EB], [0x30D5, 0x30E9, 0x30F3],
    [0x30D8, 0x30AF, 0x30BF, 0x30FC, 0x30EB], [0x30DA, 0x30BD], [0x30DA, 0x30CB, 0x30D2],
    [0x30D8, 0x30EB, 0x30C4], [0x30DA, 0x30F3, 0x30B9], [0x30DA, 0x30FC, 0x30B8],
    [0x30D9, 0x30FC, 0x30BF], [0x30DD, 0x30A4, 0x30F3, 0x30C8], [0x30DC, 0x30EB, 0x30C8],
    [0x30DB, 0x30F3], [0x30DD, 0x30F3, 0x30C9], [0x30DB, 0x30FC, 0x30EB], [0x30DB, 0x30FC, 0x30F3],
    [0x30DE, 0x30A4, 0x30AF, 0x30ED], [0x30DE, 0x30A4, 0x30EB], [0x30DE, 0x30C3, 0x30CF],
    [0x30DE, 0x30EB, 0x30AF], [0x30DE, 0x30F3, 0x30B7, 0x30E7, 0x30F3],
    [0x30DF, 0x30AF, 0x30ED, 0x30F3], [0x30DF, 0x30EA], [0x30DF, 0x30EA, 0x30D0, 0x30FC, 0x30EB],
    [0x30E1, 0x30AC], [0x30E1, 0x30AC, 0x30C8, 0x30F3], [0x30E1, 0x30FC, 0x30C8, 0x30EB],
    [0x30E4, 0x30FC, 0x30C9], [0x30E4, 0x30FC, 0x30EB], [0x30E6, 0x30A2, 0x30F3],
    [0x30EA, 0x30C3, 0x30C8, 0x30EB], [0x30EA, 0x30E9], [0x30EB, 0x30D4, 0x30FC],
    [0x30EB, 0x30FC, 0x30D6, 0x30EB], [0x30EC, 0x30E0], [0x30EC, 0x30F3, 0x30C8, 0x30B2, 0x30F3],
    [0x30EF, 0x30C3, 0x30C8], [0x30, 0x70B9], [0x31, 0x70B9], [0x32, 0x70B9], [0x33, 0x70B9],
    [0x34, 0x70B9], [0x35, 0x70B9], [0x36, 0x70B9], [0x37, 0x70B9], [0x38, 0x70B9], [0x39, 0x70B9],
    [0x31, 0x30, 0x70B9], [0x31, 0x31, 0x70B9], [0x31, 0x32, 0x70B9], [0x31, 0x33, 0x70B9],
    [0x31, 0x34, 0x70B9], [0x31, 0x35, 0x70B9], [0x31, 0x36, 0x70B9], [0x31, 0x37, 0x70B9],
    [0x31, 0x38, 0x70B9], [0x31, 0x39, 0x70B9], [0x32, 0x30, 0x70B9], [0x32, 0x31, 0x70B9],
    [0x32, 0x32, 0x70B9], [0x32, 0x33, 0x70B9]]⟩,
  ⟨0x3370, 0x33BF, [
    [0x32, 0x34, 0x70B9], [0x68, 0x50, 0x61], [0x64, 0x61], [0x41, 0x55], [0x62, 0x61, 0x72],
    [0x6F, 0x56], [0x70, 0x63], [0x64, 0x6D], [0x64, 0x6D, 0xB2], [0x64, 0x6D, 0xB3], [0x49, 0x55],
    [0x5E73, 0x6210], [0x662D, 0x548C], [0x5927, 0x6B63], [0x660E, 0x6CBB],
    [0x682A, 0x5F0F, 0x4F1A, 0x793E], [0x70, 0x41], [0x6E, 0x41], [0x3BC, 0x41], [0x6D, 0x41],
    [0x6B, 0x41], [0x4B, 0x42], [0x4D, 0x42], [0x47, 0x42], [0x63, 0x61, 0x6C],
    [0x6B, 0x63, 0x61, 0x6C], [0x70, 0x46], [0x6E, 0x46], [0x3BC, 0x46], [0x3BC, 0x67],
    [0x6D, 0x67], [0x6B, 0x67], [0x48, 0x7A], [0x6B, 0x48, 0x7A], [0x4D, 0x48, 0x7A],
    [0x47, 0x48, 0x7A], [0x54, 0x48, 0x7A], [0x3BC, 0x2113], [0x6D, 0x2113], [0x64, 0x2113],
    [0x6B, 0x2113], [0x66, 0x6D], [0x6E, 0x6D], [0x3BC, 0x6D], [0x6D, 0x6D], [0x63, 0x6D],
    [0x6B, 0x6D], [0x6D, 0x6D, 0xB2], [0x63, 0x6D, 0xB2], [0x6D, 0xB2], [0x6B, 0x6D, 0xB2],
    [0x6D, 0x6D, 0xB3], [0x63, 0x6D, 0xB3], [0x6D, 0xB3], [0x6B, 0x6D, 0xB3], [0x6D, 0x2215, 0x73],
    [0x6D, 0x2215, 0x73, 0xB2], [0x50, 0x61], [0x6B, 0x50, 0x61], [0x4D, 0x50, 0x61],
    [0x47, 0x50, 0x61], [0x72, 0x61, 0x64], [0x72, 0x61, 0x64, 0x2215, 0x73],
    [0x72, 0x61, 0x64, 0x2215, 0x73, 0xB2], [0x70, 0x73], [0x6E, 0x73], [0x3BC, 0x73], [0x6D, 0x73],
    [0x70, 0x56], [0x6E, 0x56], [0x3BC, 0x56], [0x6D, 0x56], [0x6B, 0x56], [0x4D, 0x56],
    [0x70, 0x57], [0x6E, 0x57], [0x3BC, 0x57], [0x6D, 0x57], [0x6B, 0x57], [0x4D, 0x57]]⟩,
  ⟨0x33C0, 0x33FF, [
    [0x6B, 0x3A9], [0x4D, 0x3A9], [0x61, 0x2E, 0x6D, 0x2E], [0x42, 0x71], [0x63, 0x63],
    [0x63, 0x64], [0x43, 0x2215, 0x6B, 0x67], [0x43, 0x6F, 0x2E], [0x64, 0x42], [0x47, 0x79],
    [0x68, 0x61], [0x48, 0x50], [0x69, 0x6E], [0x4B, 0x4B], [0x4B, 0x4D], [0x6B, 0x74],
    [0x6C, 0x6D], [0x6C, 0x6E], [0x6C, 0x6F, 0x67], [0x6C, 0x78], [0x6D, 0x62], [0x6D, 0x69, 0x6C],
    [0x6D, 0x6F, 0x6C], [0x50, 0x48], [0x70, 0x2E, 0x6D, 0x2E], [0x50, 0x50, 0x4D], [0x50, 0x52],
    [0x73, 0x72], [0x53, 0x76], [0x57, 0x62], [0x56, 0x2215, 0x6D], [0x41, 0x2215, 0x6D],
    [0x31, 0x65E5], [0x32, 0x65E5], [0x33, 0x65E5], [0x34, 0x65E5], [0x35, 0x65E5], [0x36, 0x65E5],
    [0x37, 0x65E5], [0x38, 0x65E5], [0x39, 0x65E5], [0x31, 0x30, 0x65E5], [0x31, 0x31, 0x65E5],
    [0x31, 0x32, 0x65E5], [0x31, 0x33, 0x65E5], [0x31, 0x34, 0x65E5], [0x31, 0x35, 0x65E5],
    [0x31, 0x36, 0x65E5], [0x31, 0x37, 0x65E5], [0x31, 0x38, 0x65E5], [0x31, 0x39, 0x65E5],
    [0x32, 0x30, 0x65E5], [0x32, 0x31, 0x65E5], [0x32, 0x32, 0x65E5], [0x32, 0x33, 0x65E5],
    [0x32, 0x34, 0x65E5], [0x32, 0x35, 0x65E5], [0x32, 0x36, 0x65E5], [0x32, 0x37, 0x65E5],
    [0x32, 0x38, 0x65E5], [0x32, 0x39, 0x65E5], [0x33, 0x30, 0x65E5], [0x33, 0x31, 0x65E5],
    [0x67, 0x61, 0x6C]]⟩,
  ⟨0xA69C, 0xA69D, [[0x44A], [0x44C]]⟩,
  ⟨0xA770, 0xA770, [[0xA76F]]⟩,
  ⟨0xA7F1, 0xA7F4, [[0x53], [0x43], [0x46], [0x51]]⟩,
  ⟨0xA7F8, 0xA7F9, [[0x126], [0x153]]⟩,
  ⟨0xAB5C, 0xAB5F, [[0xA727], [0xAB37], [0x26B], [0xAB52]]⟩,
  ⟨0xAB69, 0xAB69, [[0x28D]]⟩,
  ⟨0xFB00, 0xFB06, [
    [0x66, 0x66], [0x66, 0x69], [0x66, 0x6C], [0x66, 0x66, 0x69], [0x66, 0x66, 0x6C], [0x17F, 0x74],
    [0x73, 0x74]]⟩,
  ⟨0xFB13, 0xFB17, [
    [0x574, 0x576], [0x574, 0x565], [0x574, 0x56B], [0x57E, 0x576], [0x574, 0x56D]]⟩,
  ⟨0xFB20, 0xFB29, [
    [0x5E2], [0x5D0], [0x5D3], [0x5D4], [0x5DB], [0x5DC], [0x5DD], [0x5E8], [0x5EA], [0x2B]]⟩,
  ⟨0xFB4F, 0xFB9E, [
    [0x5D0, 0x5DC], [0x671], [0x671], [0x67B], [0x67B], [0x67B], [0x67B], [0x67E], [0x67E], [0x67E],
    [0x67E], [0x680], [0x680], [0x680], [0x680], [0x67A], [0x67A], [0x67A], [0x67A], [0x67F],
    [0x67F], [0x67F], [0x67F], [0x679], [0x679], [0x679], [0x679], [0x6A4], [0x6A4], [0x6A4],
    [0x6A4], [0x6A6], [0x6A6], [0x6A6], [0x6A6], [0x684], [0x684], [0x684], [0x684], [0x683],
    [0x683], [0x683], [0x683], [0x686], [0x686], [0x686], [0x686], [0x687], [0x687], [0x687],
    [0x687], [0x68D], [0x68D], [0x68C], [0x68C], [0x68E], [0x68E], [0x688], [0x688], [0x698],
    [0x698], [0x691], [0x691], [0x6A9], [0x6A9], [0x6A9], [0x6A9], [0x6AF], [0x6AF], [0x6AF],
    [0x6AF], [0x6B3], [0x6B3], [0x6B3], [0x6B3], [0x6B1], [0x6B1], [0x6B1], [0x6B1], [0x6BA]]⟩,
  ⟨0xFB9F, 0xFBB1, [
    [0x6BA], [0x6BB], [0x6BB], [0x6BB], [0x6BB], [0x6C0], [0x6C0], [0x6C1], [0x6C1], [0x6C1],
    [0x6C1], [0x6BE], [0x6BE], [0x6BE], [0x6BE], [0x6D2], [0x6D2], [0x6D3], [0x6D3]]⟩]

private def compatibleSpansE : List (Span (List Nat)) := [
  ⟨0xFBD3, 0xFC22, [
    [0x6AD], [0x6AD], [0x6AD], [0x6AD], [0x6C7], [0x6C7], [0x6C6], [0x6C6], [0x6C8], [0x6C8],
    [0x677], [0x6CB], [0x6CB], [0x6C5], [0x6C5], [0x6C9], [0x6C9], [0x6D0], [0x6D0], [0x6D0],
    [0x6D0], [0x649], [0x649], [0x626, 0x627], [0x626, 0x627], [0x626, 0x6D5], [0x626, 0x6D5],
    [0x626, 0x648], [0x626, 0x648], [0x626, 0x6C7], [0x626, 0x6C7], [0x626, 0x6C6], [0x626, 0x6C6],
    [0x626, 0x6C8], [0x626, 0x6C8], [0x626, 0x6D0], [0x626, 0x6D0], [0x626, 0x6D0], [0x626, 0x649],
    [0x626, 0x649], [0x626, 0x649], [0x6CC], [0x6CC], [0x6CC], [0x6CC], [0x626, 0x62C],
    [0x626, 0x62D], [0x626, 0x645], [0x626, 0x649], [0x626, 0x64A], [0x628, 0x62C], [0x628, 0x62D],
    [0x628, 0x62E], [0x628, 0x645], [0x628, 0x649], [0x628, 0x64A], [0x62A, 0x62C], [0x62A, 0x62D],
    [0x62A, 0x62E], [0x62A, 0x645], [0x62A, 0x649], [0x62A, 0x64A], [0x62B, 0x62C], [0x62B, 0x645],
    [0x62B, 0x649], [0x62B, 0x64A], [0x62C, 0x62D], [0x62C, 0x645], [0x62D, 0x62C], [0x62D, 0x645],
    [0x62E, 0x62C], [0x62E, 0x62D], [0x62E, 0x645], [0x633, 0x62C], [0x633, 0x62D], [0x633, 0x62E],
    [0x633, 0x645], [0x635, 0x62D], [0x635, 0x645], [0x636, 0x62C]]⟩,
  ⟨0xFC23, 0xFC72, [
    [0x636, 0x62D], [0x636, 0x62E], [0x636, 0x645], [0x637, 0x62D], [0x637, 0x645], [0x638, 0x645],
    [0x639, 0x62C], [0x639, 0x645], [0x63A, 0x62C], [0x63A, 0x645], [0x641, 0x62C], [0x641, 0x62D],
    [0x641, 0x62E], [0x641, 0x645], [0x641, 0x649], [0x641, 0x64A], [0x642, 0x62D], [0x642, 0x645],
    [0x642, 0x649], [0x642, 0x64A], [0x643, 0x627], [0x643, 0x62C], [0x643, 0x62D], [0x643, 0x62E],
    [0x643, 0x644], [0x643, 0x645], [0x643, 0x649], [0x643, 0x64A], [0x644, 0x62C], [0x644, 0x62D],
    [0x644, 0x62E], [0x644, 0x645], [0x644, 0x649], [0x644, 0x64A], [0x645, 0x62C], [0x645, 0x62D],
    [0x645, 0x62E], [0x645, 0x645], [0x645, 0x649], [0x645, 0x64A], [0x646, 0x62C], [0x646, 0x62D],
    [0x646, 0x62E], [0x646, 0x645], [0x646, 0x649], [0x646, 0x64A], [0x647, 0x62C], [0x647, 0x645],
    [0x647, 0x649], [0x647, 0x64A], [0x64A, 0x62C], [0x64A, 0x62D], [0x64A, 0x62E], [0x64A, 0x645],
    [0x64A, 0x649], [0x64A, 0x64A], [0x630, 0x670], [0x631, 0x670], [0x649, 0x670],
    [0x20, 0x64C, 0x651], [0x20, 0x64D, 0x651], [0x20, 0x64E, 0x651], [0x20, 0x64F, 0x651],
    [0x20, 0x650, 0x651], [0x20, 0x651, 0x670], [0x626, 0x631], [0x626, 0x632], [0x626, 0x645],
    [0x626, 0x646], [0x626, 0x649], [0x626, 0x64A], [0x628, 0x631], [0x628, 0x632], [0x628, 0x645],
    [0x628, 0x646], [0x628, 0x649], [0x628, 0x64A], [0x62A, 0x631], [0x62A, 0x632], [0x62A, 0x645]]⟩,
  ⟨0xFC73, 0xFCC2, [
    [0x62A, 0x646], [0x62A, 0x649], [0x62A, 0x64A], [0x62B, 0x631], [0x62B, 0x632], [0x62B, 0x645],
    [0x62B, 0x646], [0x62B, 0x649], [0x62B, 0x64A], [0x641, 0x649], [0x641, 0x64A], [0x642, 0x649],
    [0x642, 0x64A], [0x643, 0x627], [0x643, 0x644], [0x643, 0x645], [0x643, 0x649], [0x643, 0x64A],
    [0x644, 0x645], [0x644, 0x649], [0x644, 0x64A], [0x645, 0x627], [0x645, 0x645], [0x646, 0x631],
    [0x646, 0x632], [0x646, 0x645], [0x646, 0x646], [0x646, 0x649], [0x646, 0x64A], [0x649, 0x670],
    [0x64A, 0x631], [0x64A, 0x632], [0x64A, 0x645], [0x64A, 0x646], [0x64A, 0x649], [0x64A, 0x64A],
    [0x626, 0x62C], [0x626, 0x62D], [0x626, 0x62E], [0x626, 0x645], [0x626, 0x647], [0x628, 0x62C],
    [0x628, 0x62D], [0x628, 0x62E], [0x628, 0x645], [0x628, 0x647], [0x62A, 0x62C], [0x62A, 0x62D],
    [0x62A, 0x62E], [0x62A, 0x645], [0x62A, 0x647], [0x62B, 0x645], [0x62C, 0x62D], [0x62C, 0x645],
    [0x62D, 0x62C], [0x62D, 0x645], [0x62E, 0x62C], [0x62E, 0x645], [0x633, 0x62C], [0x633, 0x62D],
    [0x633, 0x62E], [0x633, 0x645], [0x635, 0x62D], [0x635, 0x62E], [0x635, 0x645], [0x636, 0x62C],
    [0x636, 0x62D], [0x636, 0x62E], [0x636, 0x645], [0x637, 0x62D], [0x638, 0x645], [0x639, 0x62C],
    [0x639, 0x645], [0x63A, 0x62C], [0x63A, 0x645], [0x641, 0x62C], [0x641, 0x62D], [0x641, 0x62E],
    [0x641, 0x645], [0x642, 0x62D]]⟩,
  ⟨0xFCC3, 0xFD12, [
    [0x642, 0x645], [0x643, 0x62C], [0x643, 0x62D], [0x643, 0x62E], [0x643, 0x644], [0x643, 0x645],
    [0x644, 0x62C], [0x644, 0x62D], [0x644, 0x62E], [0x644, 0x645], [0x644, 0x647], [0x645, 0x62C],
    [0x645, 0x62D], [0x645, 0x62E], [0x645, 0x645], [0x646, 0x62C], [0x646, 0x62D], [0x646, 0x62E],
    [0x646, 0x645], [0x646, 0x647], [0x647, 0x62C], [0x647, 0x645], [0x647, 0x670], [0x64A, 0x62C],
    [0x64A, 0x62D], [0x64A, 0x62E], [0x64A, 0x645], [0x64A, 0x647], [0x626, 0x645], [0x626, 0x647],
    [0x628, 0x645], [0x628, 0x647], [0x62A, 0x645], [0x62A, 0x647], [0x62B, 0x645], [0x62B, 0x647],
    [0x633, 0x645], [0x633, 0x647], [0x634, 0x645], [0x634, 0x647], [0x643, 0x644], [0x643, 0x645],
    [0x644, 0x645], [0x646, 0x645], [0x646, 0x647], [0x64A, 0x645], [0x64A, 0x647],
    [0x640, 0x64E, 0x651], [0x640, 0x64F, 0x651], [0x640, 0x650, 0x651], [0x637, 0x649],
    [0x637, 0x64A], [0x639, 0x649], [0x639, 0x64A], [0x63A, 0x649], [0x63A, 0x64A], [0x633, 0x649],
    [0x633, 0x64A], [0x634, 0x649], [0x634, 0x64A], [0x62D, 0x649], [0x62D, 0x64A], [0x62C, 0x649],
    [0x62C, 0x64A], [0x62E, 0x649], [0x62E, 0x64A], [0x635, 0x649], [0x635, 0x64A], [0x636, 0x649],
    [0x636, 0x64A], [0x634, 0x62C], [0x634, 0x62D], [0x634, 0x62E], [0x634, 0x645], [0x634, 0x631],
    [0x633, 0x631], [0x635, 0x631], [0x636, 0x631], [0x637, 0x649], [0x637, 0x64A]]⟩,
  ⟨0xFD13, 0xFD3D, [
    [0x639, 0x649], [0x639, 0x64A], [0x63A, 0x649], [0x63A, 0x64A], [0x633, 0x649], [0x633, 0x64A],
    [0x634, 0x649], [0x634, 0x64A], [0x62D, 0x649], [0x62D, 0x64A], [0x62C, 0x649], [0x62C, 0x64A],
    [0x62E, 0x649], [0x62E, 0x64A], [0x635, 0x649], [0x635, 0x64A], [0x636, 0x649], [0x636, 0x64A],
    [0x634, 0x62C], [0x634, 0x62D], [0x634, 0x62E], [0x634, 0x645], [0x634, 0x631], [0x633, 0x631],
    [0x635, 0x631], [0x636, 0x631], [0x634, 0x62C], [0x634, 0x62D], [0x634, 0x62E], [0x634, 0x645],
    [0x633, 0x647], [0x634, 0x647], [0x637, 0x645], [0x633, 0x62C], [0x633, 0x62D], [0x633, 0x62E],
    [0x634, 0x62C], [0x634, 0x62D], [0x634, 0x62E], [0x637, 0x645], [0x638, 0x645], [0x627, 0x64B],
    [0x627, 0x64B]]⟩]

private def compatibleSpansF : List (Span (List Nat)) := [
  ⟨0xFD50, 0xFD8F, [
    [0x62A, 0x62C, 0x645], [0x62A, 0x62D, 0x62C], [0x62A, 0x62D, 0x62C], [0x62A, 0x62D, 0x645],
    [0x62A, 0x62E, 0x645], [0x62A, 0x645, 0x62C], [0x62A, 0x645, 0x62D], [0x62A, 0x645, 0x62E],
    [0x62C, 0x645, 0x62D], [0x62C, 0x645, 0x62D], [0x62D, 0x645, 0x64A], [0x62D, 0x645, 0x649],
    [0x633, 0x62D, 0x62C], [0x633, 0x62C, 0x62D], [0x633, 0x62C, 0x649], [0x633, 0x645, 0x62D],
    [0x633, 0x645, 0x62D], [0x633, 0x645, 0x62C], [0x633, 0x645, 0x645], [0x633, 0x645, 0x645],
    [0x635, 0x62D, 0x62D], [0x635, 0x62D, 0x62D], [0x635, 0x645, 0x645], [0x634, 0x62D, 0x645],
    [0x634, 0x62D, 0x645], [0x634, 0x62C, 0x64A], [0x634, 0x645, 0x62E], [0x634, 0x645, 0x62E],
    [0x634, 0x645, 0x645], [0x634, 0x645, 0x645], [0x636, 0x62D, 0x649], [0x636, 0x62E, 0x645],
    [0x636, 0x62E, 0x645], [0x637, 0x645, 0x62D], [0x637, 0x645, 0x62D], [0x637, 0x645, 0x645],
    [0x637, 0x645, 0x64A], [0x639, 0x62C, 0x645], [0x639, 0x645, 0x645], [0x639, 0x645, 0x645],
    [0x639, 0x645, 0x649], [0x63A, 0x645, 0x645], [0x63A, 0x645, 0x64A], [0x63A, 0x645, 0x649],
    [0x641, 0x62E, 0x645], [0x641, 0x62E, 0x645], [0x642, 0x645, 0x62D], [0x642, 0x645, 0x645],
    [0x644, 0x62D, 0x645], [0x644, 0x62D, 0x64A], [0x644, 0x62D, 0x649], [0x644, 0x62C, 0x62C],
    [0x644, 0x62C, 0x62C], [0x644, 0x62E, 0x645], [0x644, 0x62E, 0x645], [0x644, 0x645, 0x62D],
    [0x644, 0x645, 0x62D], [0x645, 0x62D, 0x62C], [0x645, 0x62D, 0x645], [0x645, 0x62D, 0x64A],
    [0x645, 0x62C, 0x62D], [0x645, 0x62C, 0x645], [0x645, 0x62E, 0x62C], [0x645, 0x62E, 0x645]]⟩,
  ⟨0xFD92, 0xFDC7, [
    [0x645, 0x62C, 0x62E], [0x647, 0x645, 0x62C], [0x647, 0x645, 0x645], [0x646, 0x62D, 0x645],
    [0x646, 0x62D, 0x649], [0x646, 0x62C, 0x645], [0x646, 0x62C, 0x645], [0x646, 0x62C, 0x649],
    [0x646, 0x645, 0x64A], [0x646, 0x645, 0x649], [0x64A, 0x645, 0x645], [0x64A, 0x645, 0x645],
    [0x628, 0x62E, 0x64A], [0x62A, 0x62C, 0x64A], [0x62A, 0x62C, 0x649], [0x62A, 0x62E, 0x64A],
    [0x62A, 0x62E, 0x649], [0x62A, 0x645, 0x64A], [0x62A, 0x645, 0x649], [0x62C, 0x645, 0x64A],
    [0x62C, 0x62D, 0x649], [0x62C, 0x645, 0x649], [0x633, 0x62E, 0x649], [0x635, 0x62D, 0x64A],
    [0x634, 0x62D, 0x64A], [0x636, 0x62D, 0x64A], [0x644, 0x62C, 0x64A], [0x644, 0x645, 0x64A],
    [0x64A, 0x62D, 0x64A], [0x64A, 0x62C, 0x64A], [0x64A, 0x645, 0x64A], [0x645, 0x645, 0x64A],
    [0x642, 0x645, 0x64A], [0x646, 0x62D, 0x64A], [0x642, 0x645, 0x62D], [0x644, 0x62D, 0x645],
    [0x639, 0x645, 0x64A], [0x643, 0x645, 0x64A], [0x646, 0x62C, 0x62D], [0x645, 0x62E, 0x64A],
    [0x644, 0x62C, 0x645], [0x643, 0x645, 0x645], [0x644, 0x62C, 0x645], [0x646, 0x62C, 0x62D],
    [0x62C, 0x62D, 0x64A], [0x62D, 0x62C, 0x64A], [0x645, 0x62C, 0x64A], [0x641, 0x645, 0x64A],
    [0x628, 0x62D, 0x64A], [0x643, 0x645, 0x645], [0x639, 0x62C, 0x645], [0x635, 0x645, 0x645],
    [0x633, 0x62E, 0x64A], [0x646, 0x62C, 0x64A]]⟩,
  ⟨0xFDF0, 0xFDFC, [
    [0x635, 0x644, 0x6D2], [0x642, 0x644, 0x6D2], [0x627, 0x644, 0x644, 0x647],
    [0x627, 0x643, 0x628, 0x631], [0x645, 0x62D, 0x645, 0x62F], [0x635, 0x644, 0x639, 0x645],
    [0x631, 0x633, 0x648, 0x644], [0x639, 0x644, 0x64A, 0x647], [0x648, 0x633, 0x644, 0x645],
    [0x635, 0x644, 0x649],
    [0x635, 0x644, 0x649, 0x20, 0x627, 0x644, 0x644, 0x647, 0x20, 0x639, 0x644, 0x64A, 0x647, 0x20,
      0x648, 0x633, 0x644, 0x645], [0x62C, 0x644, 0x20, 0x62C, 0x644, 0x627, 0x644, 0x647],
    [0x631, 0x6CC, 0x627, 0x644]]⟩,
  ⟨0xFE10, 0xFE19, [
    [0x2C], [0x3001], [0x3002], [0x3A], [0x3B], [0x21], [0x3F], [0x3016], [0x3017], [0x2026]]⟩,
  ⟨0xFE30, 0xFE44, [
    [0x2025], [0x2014], [0x2013], [0x5F], [0x5F], [0x28], [0x29], [0x7B], [0x7D], [0x3014],
    [0x3015], [0x3010], [0x3011], [0x300A], [0x300B], [0x3008], [0x3009], [0x300C], [0x300D],
    [0x300E], [0x300F]]⟩,
  ⟨0xFE47, 0xFE52, [
    [0x5B], [0x5D], [0x203E], [0x203E], [0x203E], [0x203E], [0x5F], [0x5F], [0x5F], [0x2C],
    [0x3001], [0x2E]]⟩,
  ⟨0xFE54, 0xFE66, [
    [0x3B], [0x3A], [0x3F], [0x21], [0x2014], [0x28], [0x29], [0x7B], [0x7D], [0x3014], [0x3015],
    [0x23], [0x26], [0x2A], [0x2B], [0x2D], [0x3C], [0x3E], [0x3D]]⟩,
  ⟨0xFE68, 0xFE6B, [[0x5C], [0x24], [0x25], [0x40]]⟩,
  ⟨0xFE70, 0xFE72, [[0x20, 0x64B], [0x640, 0x64B], [0x20, 0x64C]]⟩,
  ⟨0xFE74, 0xFE74, [[0x20, 0x64D]]⟩,
  ⟨0xFE76, 0xFEC5, [
    [0x20, 0x64E], [0x640, 0x64E], [0x20, 0x64F], [0x640, 0x64F], [0x20, 0x650], [0x640, 0x650],
    [0x20, 0x651], [0x640, 0x651], [0x20, 0x652], [0x640, 0x652], [0x621], [0x622], [0x622],
    [0x623], [0x623], [0x624], [0x624], [0x625], [0x625], [0x626], [0x626], [0x626], [0x626],
    [0x627], [0x627], [0x628], [0x628], [0x628], [0x628], [0x629], [0x629], [0x62A], [0x62A],
    [0x62A], [0x62A], [0x62B], [0x62B], [0x62B], [0x62B], [0x62C], [0x62C], [0x62C], [0x62C],
    [0x62D], [0x62D], [0x62D], [0x62D], [0x62E], [0x62E], [0x62E], [0x62E], [0x62F], [0x62F],
    [0x630], [0x630], [0x631], [0x631], [0x632], [0x632], [0x633], [0x633], [0x633], [0x633],
    [0x634], [0x634], [0x634], [0x634], [0x635], [0x635], [0x635], [0x635], [0x636], [0x636],
    [0x636], [0x636], [0x637], [0x637], [0x637], [0x637], [0x638]]⟩,
  ⟨0xFEC6, 0xFEFC, [
    [0x638], [0x638], [0x638], [0x639], [0x639], [0x639], [0x639], [0x63A], [0x63A], [0x63A],
    [0x63A], [0x641], [0x641], [0x641], [0x641], [0x642], [0x642], [0x642], [0x642], [0x643],
    [0x643], [0x643], [0x643], [0x644], [0x644], [0x644], [0x644], [0x645], [0x645], [0x645],
    [0x645], [0x646], [0x646], [0x646], [0x646], [0x647], [0x647], [0x647], [0x647], [0x648],
    [0x648], [0x649], [0x649], [0x64A], [0x64A], [0x64A], [0x64A], [0x644, 0x622], [0x644, 0x622],
    [0x644, 0x623], [0x644, 0x623], [0x644, 0x625], [0x644, 0x625], [0x644, 0x627], [0x644, 0x627]]⟩]

private def compatibleSpansG : List (Span (List Nat)) := [
  ⟨0xFF01, 0xFF50, [
    [0x21], [0x22], [0x23], [0x24], [0x25], [0x26], [0x27], [0x28], [0x29], [0x2A], [0x2B], [0x2C],
    [0x2D], [0x2E], [0x2F], [0x30], [0x31], [0x32], [0x33], [0x34], [0x35], [0x36], [0x37], [0x38],
    [0x39], [0x3A], [0x3B], [0x3C], [0x3D], [0x3E], [0x3F], [0x40], [0x41], [0x42], [0x43], [0x44],
    [0x45], [0x46], [0x47], [0x48], [0x49], [0x4A], [0x4B], [0x4C], [0x4D], [0x4E], [0x4F], [0x50],
    [0x51], [0x52], [0x53], [0x54], [0x55], [0x56], [0x57], [0x58], [0x59], [0x5A], [0x5B], [0x5C],
    [0x5D], [0x5E], [0x5F], [0x60], [0x61], [0x62], [0x63], [0x64], [0x65], [0x66], [0x67], [0x68],
    [0x69], [0x6A], [0x6B], [0x6C], [0x6D], [0x6E], [0x6F], [0x70]]⟩,
  ⟨0xFF51, 0xFFA0, [
    [0x71], [0x72], [0x73], [0x74], [0x75], [0x76], [0x77], [0x78], [0x79], [0x7A], [0x7B], [0x7C],
    [0x7D], [0x7E], [0x2985], [0x2986], [0x3002], [0x300C], [0x300D], [0x3001], [0x30FB], [0x30F2],
    [0x30A1], [0x30A3], [0x30A5], [0x30A7], [0x30A9], [0x30E3], [0x30E5], [0x30E7], [0x30C3],
    [0x30FC], [0x30A2], [0x30A4], [0x30A6], [0x30A8], [0x30AA], [0x30AB], [0x30AD], [0x30AF],
    [0x30B1], [0x30B3], [0x30B5], [0x30B7], [0x30B9], [0x30BB], [0x30BD], [0x30BF], [0x30C1],
    [0x30C4], [0x30C6], [0x30C8], [0x30CA], [0x30CB], [0x30CC], [0x30CD], [0x30CE], [0x30CF],
    [0x30D2], [0x30D5], [0x30D8], [0x30DB], [0x30DE], [0x30DF], [0x30E0], [0x30E1], [0x30E2],
    [0x30E4], [0x30E6], [0x30E8], [0x30E9], [0x30EA], [0x30EB], [0x30EC], [0x30ED], [0x30EF],
    [0x30F3], [0x3099], [0x309A], [0x3164]]⟩,
  ⟨0xFFA1, 0xFFBE, [
    [0x3131], [0x3132], [0x3133], [0x3134], [0x3135], [0x3136], [0x3137], [0x3138], [0x3139],
    [0x313A], [0x313B], [0x313C], [0x313D], [0x313E], [0x313F], [0x3140], [0x3141], [0x3142],
    [0x3143], [0x3144], [0x3145], [0x3146], [0x3147], [0x3148], [0x3149], [0x314A], [0x314B],
    [0x314C], [0x314D], [0x314E]]⟩,
  ⟨0xFFC2, 0xFFC7, [[0x314F], [0x3150], [0x3151], [0x3152], [0x3153], [0x3154]]⟩,
  ⟨0xFFCA, 0xFFCF, [[0x3155], [0x3156], [0x3157], [0x3158], [0x3159], [0x315A]]⟩,
  ⟨0xFFD2, 0xFFD7, [[0x315B], [0x315C], [0x315D], [0x315E], [0x315F], [0x3160]]⟩,
  ⟨0xFFDA, 0xFFDC, [[0x3161], [0x3162], [0x3163]]⟩,
  ⟨0xFFE0, 0xFFE6, [[0xA2], [0xA3], [0xAC], [0xAF], [0xA6], [0xA5], [0x20A9]]⟩,
  ⟨0xFFE8, 0xFFEE, [[0x2502], [0x2190], [0x2191], [0x2192], [0x2193], [0x25A0], [0x25CB]]⟩,
  ⟨0x10781, 0x10785, [[0x2D0], [0x2D1], [0xE6], [0x299], [0x253]]⟩,
  ⟨0x10787, 0x107B0, [
    [0x2A3], [0xAB66], [0x2A5], [0x2A4], [0x256], [0x257], [0x1D91], [0x258], [0x25E], [0x2A9],
    [0x264], [0x262], [0x260], [0x29B], [0x127], [0x29C], [0x267], [0x284], [0x2AA], [0x2AB],
    [0x26C], [0x1DF04], [0xA78E], [0x26E], [0x1DF05], [0x28E], [0x1DF06], [0xF8], [0x276], [0x277],
    [0x71], [0x27A], [0x1DF08], [0x27D], [0x27E], [0x280], [0x2A8], [0x2A6], [0xAB67], [0x2A7],
    [0x288], [0x2C71]]⟩,
  ⟨0x107B2, 0x107BB, [
    [0x28F], [0x2A1], [0x2A2], [0x298], [0x1C0], [0x1C1], [0x1C2], [0x1DF0A], [0x1DF1E], [0x287]]⟩,
  ⟨0x107BF, 0x107BF, [[0x1DF0B]]⟩,
  ⟨0x1B123, 0x1B123, [[0x3053, 0x3068]]⟩,
  ⟨0x1B126, 0x1B126, [[0x30E8, 0x30EA]]⟩,
  ⟨0x1CCD6, 0x1CCF9, [
    [0x41], [0x42], [0x43], [0x44], [0x45], [0x46], [0x47], [0x48], [0x49], [0x4A], [0x4B], [0x4C],
    [0x4D], [0x4E], [0x4F], [0x50], [0x51], [0x52], [0x53], [0x54], [0x55], [0x56], [0x57], [0x58],
    [0x59], [0x5A], [0x30], [0x31], [0x32], [0x33], [0x34], [0x35], [0x36], [0x37], [0x38], [0x39]]⟩]

private def compatibleSpansH : List (Span (List Nat)) := [
  ⟨0x1D400, 0x1D44F, [
    [0x41], [0x42], [0x43], [0x44], [0x45], [0x46], [0x47], [0x48], [0x49], [0x4A], [0x4B], [0x4C],
    [0x4D], [0x4E], [0x4F], [0x50], [0x51], [0x52], [0x53], [0x54], [0x55], [0x56], [0x57], [0x58],
    [0x59], [0x5A], [0x61], [0x62], [0x63], [0x64], [0x65], [0x66], [0x67], [0x68], [0x69], [0x6A],
    [0x6B], [0x6C], [0x6D], [0x6E], [0x6F], [0x70], [0x71], [0x72], [0x73], [0x74], [0x75], [0x76],
    [0x77], [0x78], [0x79], [0x7A], [0x41], [0x42], [0x43], [0x44], [0x45], [0x46], [0x47], [0x48],
    [0x49], [0x4A], [0x4B], [0x4C], [0x4D], [0x4E], [0x4F], [0x50], [0x51], [0x52], [0x53], [0x54],
    [0x55], [0x56], [0x57], [0x58], [0x59], [0x5A], [0x61], [0x62]]⟩,
  ⟨0x1D450, 0x1D454, [[0x63], [0x64], [0x65], [0x66], [0x67]]⟩,
  ⟨0x1D456, 0x1D49C, [
    [0x69], [0x6A], [0x6B], [0x6C], [0x6D], [0x6E], [0x6F], [0x70], [0x71], [0x72], [0x73], [0x74],
    [0x75], [0x76], [0x77], [0x78], [0x79], [0x7A], [0x41], [0x42], [0x43], [0x44], [0x45], [0x46],
    [0x47], [0x48], [0x49], [0x4A], [0x4B], [0x4C], [0x4D], [0x4E], [0x4F], [0x50], [0x51], [0x52],
    [0x53], [0x54], [0x55], [0x56], [0x57], [0x58], [0x59], [0x5A], [0x61], [0x62], [0x63], [0x64],
    [0x65], [0x66], [0x67], [0x68], [0x69], [0x6A], [0x6B], [0x6C], [0x6D], [0x6E], [0x6F], [0x70],
    [0x71], [0x72], [0x73], [0x74], [0x75], [0x76], [0x77], [0x78], [0x79], [0x7A], [0x41]]⟩,
  ⟨0x1D49E, 0x1D49F, [[0x43], [0x44]]⟩,
  ⟨0x1D4A2, 0x1D4A2, [[0x47]]⟩,
  ⟨0x1D4A5, 0x1D4A6, [[0x4A], [0x4B]]⟩,
  ⟨0x1D4A9, 0x1D4AC, [[0x4E], [0x4F], [0x50], [0x51]]⟩,
  ⟨0x1D4AE, 0x1D4B9, [
    [0x53], [0x54], [0x55], [0x56], [0x57], [0x58], [0x59], [0x5A], [0x61], [0x62], [0x63], [0x64]]⟩,
  ⟨0x1D4BB, 0x1D4BB, [[0x66]]⟩,
  ⟨0x1D4BD, 0x1D4C3, [[0x68], [0x69], [0x6A], [0x6B], [0x6C], [0x6D], [0x6E]]⟩,
  ⟨0x1D4C5, 0x1D505, [
    [0x70], [0x71], [0x72], [0x73], [0x74], [0x75], [0x76], [0x77], [0x78], [0x79], [0x7A], [0x41],
    [0x42], [0x43], [0x44], [0x45], [0x46], [0x47], [0x48], [0x49], [0x4A], [0x4B], [0x4C], [0x4D],
    [0x4E], [0x4F], [0x50], [0x51], [0x52], [0x53], [0x54], [0x55], [0x56], [0x57], [0x58], [0x59],
    [0x5A], [0x61], [0x62], [0x63], [0x64], [0x65], [0x66], [0x67], [0x68], [0x69], [0x6A], [0x6B],
    [0x6C], [0x6D], [0x6E], [0x6F], [0x70], [0x71], [0x72], [0x73], [0x74], [0x75], [0x76], [0x77],
    [0x78], [0x79], [0x7A], [0x41], [0x42]]⟩,
  ⟨0x1D507, 0x1D50A, [[0x44], [0x45], [0x46], [0x47]]⟩,
  ⟨0x1D50D, 0x1D514, [[0x4A], [0x4B], [0x4C], [0x4D], [0x4E], [0x4F], [0x50], [0x51]]⟩,
  ⟨0x1D516, 0x1D51C, [[0x53], [0x54], [0x55], [0x56], [0x57], [0x58], [0x59]]⟩,
  ⟨0x1D51E, 0x1D539, [
    [0x61], [0x62], [0x63], [0x64], [0x65], [0x66], [0x67], [0x68], [0x69], [0x6A], [0x6B], [0x6C],
    [0x6D], [0x6E], [0x6F], [0x70], [0x71], [0x72], [0x73], [0x74], [0x75], [0x76], [0x77], [0x78],
    [0x79], [0x7A], [0x41], [0x42]]⟩,
  ⟨0x1D53B, 0x1D53E, [[0x44], [0x45], [0x46], [0x47]]⟩,
  ⟨0x1D540, 0x1D544, [[0x49], [0x4A], [0x4B], [0x4C], [0x4D]]⟩,
  ⟨0x1D546, 0x1D546, [[0x4F]]⟩,
  ⟨0x1D54A, 0x1D550, [[0x53], [0x54], [0x55], [0x56], [0x57], [0x58], [0x59]]⟩,
  ⟨0x1D552, 0x1D5A1, [
    [0x61], [0x62], [0x63], [0x64], [0x65], [0x66], [0x67], [0x68], [0x69], [0x6A], [0x6B], [0x6C],
    [0x6D], [0x6E], [0x6F], [0x70], [0x71], [0x72], [0x73], [0x74], [0x75], [0x76], [0x77], [0x78],
    [0x79], [0x7A], [0x41], [0x42], [0x43], [0x44], [0x45], [0x46], [0x47], [0x48], [0x49], [0x4A],
    [0x4B], [0x4C], [0x4D], [0x4E], [0x4F], [0x50], [0x51], [0x52], [0x53], [0x54], [0x55], [0x56],
    [0x57], [0x58], [0x59], [0x5A], [0x61], [0x62], [0x63], [0x64], [0x65], [0x66], [0x67], [0x68],
    [0x69], [0x6A], [0x6B], [0x6C], [0x6D], [0x6E], [0x6F], [0x70], [0x71], [0x72], [0x73], [0x74],
    [0x75], [0x76], [0x77], [0x78], [0x79], [0x7A], [0x41], [0x42]]⟩]

private def compatibleSpansI : List (Span (List Nat)) := [
  ⟨0x1D5A2, 0x1D5F1, [
    [0x43], [0x44], [0x45], [0x46], [0x47], [0x48], [0x49], [0x4A], [0x4B], [0x4C], [0x4D], [0x4E],
    [0x4F], [0x50], [0x51], [0x52], [0x53], [0x54], [0x55], [0x56], [0x57], [0x58], [0x59], [0x5A],
    [0x61], [0x62], [0x63], [0x64], [0x65], [0x66], [0x67], [0x68], [0x69], [0x6A], [0x6B], [0x6C],
    [0x6D], [0x6E], [0x6F], [0x70], [0x71], [0x72], [0x73], [0x74], [0x75], [0x76], [0x77], [0x78],
    [0x79], [0x7A], [0x41], [0x42], [0x43], [0x44], [0x45], [0x46], [0x47], [0x48], [0x49], [0x4A],
    [0x4B], [0x4C], [0x4D], [0x4E], [0x4F], [0x50], [0x51], [0x52], [0x53], [0x54], [0x55], [0x56],
    [0x57], [0x58], [0x59], [0x5A], [0x61], [0x62], [0x63], [0x64]]⟩,
  ⟨0x1D5F2, 0x1D641, [
    [0x65], [0x66], [0x67], [0x68], [0x69], [0x6A], [0x6B], [0x6C], [0x6D], [0x6E], [0x6F], [0x70],
    [0x71], [0x72], [0x73], [0x74], [0x75], [0x76], [0x77], [0x78], [0x79], [0x7A], [0x41], [0x42],
    [0x43], [0x44], [0x45], [0x46], [0x47], [0x48], [0x49], [0x4A], [0x4B], [0x4C], [0x4D], [0x4E],
    [0x4F], [0x50], [0x51], [0x52], [0x53], [0x54], [0x55], [0x56], [0x57], [0x58], [0x59], [0x5A],
    [0x61], [0x62], [0x63], [0x64], [0x65], [0x66], [0x67], [0x68], [0x69], [0x6A], [0x6B], [0x6C],
    [0x6D], [0x6E], [0x6F], [0x70], [0x71], [0x72], [0x73], [0x74], [0x75], [0x76], [0x77], [0x78],
    [0x79], [0x7A], [0x41], [0x42], [0x43], [0x44], [0x45], [0x46]]⟩,
  ⟨0x1D642, 0x1D691, [
    [0x47], [0x48], [0x49], [0x4A], [0x4B], [0x4C], [0x4D], [0x4E], [0x4F], [0x50], [0x51], [0x52],
    [0x53], [0x54], [0x55], [0x56], [0x57], [0x58], [0x59], [0x5A], [0x61], [0x62], [0x63], [0x64],
    [0x65], [0x66], [0x67], [0x68], [0x69], [0x6A], [0x6B], [0x6C], [0x6D], [0x6E], [0x6F], [0x70],
    [0x71], [0x72], [0x73], [0x74], [0x75], [0x76], [0x77], [0x78], [0x79], [0x7A], [0x41], [0x42],
    [0x43], [0x44], [0x45], [0x46], [0x47], [0x48], [0x49], [0x4A], [0x4B], [0x4C], [0x4D], [0x4E],
    [0x4F], [0x50], [0x51], [0x52], [0x53], [0x54], [0x55], [0x56], [0x57], [0x58], [0x59], [0x5A],
    [0x61], [0x62], [0x63], [0x64], [0x65], [0x66], [0x67], [0x68]]⟩,
  ⟨0x1D692, 0x1D6A6, [
    [0x69], [0x6A], [0x6B], [0x6C], [0x6D], [0x6E], [0x6F], [0x70], [0x71], [0x72], [0x73], [0x74],
    [0x75], [0x76], [0x77], [0x78], [0x79], [0x7A], [0x131], [0x237], [0xDF]]⟩,
  ⟨0x1D6A8, 0x1D6F7, [
    [0x391], [0x392], [0x393], [0x394], [0x395], [0x396], [0x397], [0x398], [0x399], [0x39A],
    [0x39B], [0x39C], [0x39D], [0x39E], [0x39F], [0x3A0], [0x3A1], [0x3F4], [0x3A3], [0x3A4],
    [0x3A5], [0x3A6], [0x3A7], [0x3A8], [0x3A9], [0x2207], [0x3B1], [0x3B2], [0x3B3], [0x3B4],
    [0x3B5], [0x3B6], [0x3B7], [0x3B8], [0x3B9], [0x3BA], [0x3BB], [0x3BC], [0x3BD], [0x3BE],
    [0x3BF], [0x3C0], [0x3C1], [0x3C2], [0x3C3], [0x3C4], [0x3C5], [0x3C6], [0x3C7], [0x3C8],
    [0x3C9], [0x2202], [0x3F5], [0x3D1], [0x3F0], [0x3D5], [0x3F1], [0x3D6], [0x391], [0x392],
    [0x393], [0x394], [0x395], [0x396], [0x397], [0x398], [0x399], [0x39A], [0x39B], [0x39C],
    [0x39D], [0x39E], [0x39F], [0x3A0], [0x3A1], [0x3F4], [0x3A3], [0x3A4], [0x3A5], [0x3A6]]⟩]

private def compatibleSpansJ : List (Span (List Nat)) := [
  ⟨0x1D6F8, 0x1D747, [
    [0x3A7], [0x3A8], [0x3A9], [0x2207], [0x3B1], [0x3B2], [0x3B3], [0x3B4], [0x3B5], [0x3B6],
    [0x3B7], [0x3B8], [0x3B9], [0x3BA], [0x3BB], [0x3BC], [0x3BD], [0x3BE], [0x3BF], [0x3C0],
    [0x3C1], [0x3C2], [0x3C3], [0x3C4], [0x3C5], [0x3C6], [0x3C7], [0x3C8], [0x3C9], [0x2202],
    [0x3F5], [0x3D1], [0x3F0], [0x3D5], [0x3F1], [0x3D6], [0x391], [0x392], [0x393], [0x394],
    [0x395], [0x396], [0x397], [0x398], [0x399], [0x39A], [0x39B], [0x39C], [0x39D], [0x39E],
    [0x39F], [0x3A0], [0x3A1], [0x3F4], [0x3A3], [0x3A4], [0x3A5], [0x3A6], [0x3A7], [0x3A8],
    [0x3A9], [0x2207], [0x3B1], [0x3B2], [0x3B3], [0x3B4], [0x3B5], [0x3B6], [0x3B7], [0x3B8],
    [0x3B9], [0x3BA], [0x3BB], [0x3BC], [0x3BD], [0x3BE], [0x3BF], [0x3C0], [0x3C1], [0x3C2]]⟩,
  ⟨0x1D748, 0x1D797, [
    [0x3C3], [0x3C4], [0x3C5], [0x3C6], [0x3C7], [0x3C8], [0x3C9], [0x2202], [0x3F5], [0x3D1],
    [0x3F0], [0x3D5], [0x3F1], [0x3D6], [0x391], [0x392], [0x393], [0x394], [0x395], [0x396],
    [0x397], [0x398], [0x399], [0x39A], [0x39B], [0x39C], [0x39D], [0x39E], [0x39F], [0x3A0],
    [0x3A1], [0x3F4], [0x3A3], [0x3A4], [0x3A5], [0x3A6], [0x3A7], [0x3A8], [0x3A9], [0x2207],
    [0x3B1], [0x3B2], [0x3B3], [0x3B4], [0x3B5], [0x3B6], [0x3B7], [0x3B8], [0x3B9], [0x3BA],
    [0x3BB], [0x3BC], [0x3BD], [0x3BE], [0x3BF], [0x3C0], [0x3C1], [0x3C2], [0x3C3], [0x3C4],
    [0x3C5], [0x3C6], [0x3C7], [0x3C8], [0x3C9], [0x2202], [0x3F5], [0x3D1], [0x3F0], [0x3D5],
    [0x3F1], [0x3D6], [0x391], [0x392], [0x393], [0x394], [0x395], [0x396], [0x397], [0x398]]⟩,
  ⟨0x1D798, 0x1D7CB, [
    [0x399], [0x39A], [0x39B], [0x39C], [0x39D], [0x39E], [0x39F], [0x3A0], [0x3A1], [0x3F4],
    [0x3A3], [0x3A4], [0x3A5], [0x3A6], [0x3A7], [0x3A8], [0x3A9], [0x2207], [0x3B1], [0x3B2],
    [0x3B3], [0x3B4], [0x3B5], [0x3B6], [0x3B7], [0x3B8], [0x3B9], [0x3BA], [0x3BB], [0x3BC],
    [0x3BD], [0x3BE], [0x3BF], [0x3C0], [0x3C1], [0x3C2], [0x3C3], [0x3C4], [0x3C5], [0x3C6],
    [0x3C7], [0x3C8], [0x3C9], [0x2202], [0x3F5], [0x3D1], [0x3F0], [0x3D5], [0x3F1], [0x3D6],
    [0x3DC], [0x3DD]]⟩,
  ⟨0x1D7CE, 0x1D7FF, [
    [0x30], [0x31], [0x32], [0x33], [0x34], [0x35], [0x36], [0x37], [0x38], [0x39], [0x30], [0x31],
    [0x32], [0x33], [0x34], [0x35], [0x36], [0x37], [0x38], [0x39], [0x30], [0x31], [0x32], [0x33],
    [0x34], [0x35], [0x36], [0x37], [0x38], [0x39], [0x30], [0x31], [0x32], [0x33], [0x34], [0x35],
    [0x36], [0x37], [0x38], [0x39], [0x30], [0x31], [0x32], [0x33], [0x34], [0x35], [0x36], [0x37],
    [0x38], [0x39]]⟩,
  ⟨0x1DF95, 0x1DF95, [[0xDF]]⟩,
  ⟨0x1DFCD, 0x1DFCD, [[0x1DF57]]⟩,
  ⟨0x1DFD0, 0x1DFD0, [[0x263]]⟩,
  ⟨0x1DFF6, 0x1DFF6, [[0xA795]]⟩,
  ⟨0x1DFFF, 0x1DFFF, [[0x1DF09]]⟩,
  ⟨0x1E030, 0x1E06D, [
    [0x430], [0x431], [0x432], [0x433], [0x434], [0x435], [0x436], [0x437], [0x438], [0x43A],
    [0x43B], [0x43C], [0x43E], [0x43F], [0x440], [0x441], [0x442], [0x443], [0x444], [0x445],
    [0x446], [0x447], [0x448], [0x44B], [0x44D], [0x44E], [0xA689], [0x4D9], [0x456], [0x458],
    [0x4E9], [0x4AF], [0x4CF], [0x430], [0x431], [0x432], [0x433], [0x434], [0x435], [0x436],
    [0x437], [0x438], [0x43A], [0x43B], [0x43E], [0x43F], [0x441], [0x443], [0x444], [0x445],
    [0x446], [0x447], [0x448], [0x44A], [0x44B], [0x491], [0x456], [0x455], [0x45F], [0x4AB],
    [0xA651], [0x4B1]]⟩,
  ⟨0x1EE00, 0x1EE03, [[0x627], [0x628], [0x62C], [0x62F]]⟩,
  ⟨0x1EE05, 0x1EE1F, [
    [0x648], [0x632], [0x62D], [0x637], [0x64A], [0x643], [0x644], [0x645], [0x646], [0x633],
    [0x639], [0x641], [0x635], [0x642], [0x631], [0x634], [0x62A], [0x62B], [0x62E], [0x630],
    [0x636], [0x638], [0x63A], [0x66E], [0x6BA], [0x6A1], [0x66F]]⟩,
  ⟨0x1EE21, 0x1EE22, [[0x628], [0x62C]]⟩,
  ⟨0x1EE24, 0x1EE24, [[0x647]]⟩,
  ⟨0x1EE27, 0x1EE27, [[0x62D]]⟩,
  ⟨0x1EE29, 0x1EE32, [
    [0x64A], [0x643], [0x644], [0x645], [0x646], [0x633], [0x639], [0x641], [0x635], [0x642]]⟩,
  ⟨0x1EE34, 0x1EE37, [[0x634], [0x62A], [0x62B], [0x62E]]⟩,
  ⟨0x1EE39, 0x1EE39, [[0x636]]⟩,
  ⟨0x1EE3B, 0x1EE3B, [[0x63A]]⟩,
  ⟨0x1EE42, 0x1EE42, [[0x62C]]⟩,
  ⟨0x1EE47, 0x1EE47, [[0x62D]]⟩,
  ⟨0x1EE49, 0x1EE49, [[0x64A]]⟩,
  ⟨0x1EE4B, 0x1EE4B, [[0x644]]⟩,
  ⟨0x1EE4D, 0x1EE4F, [[0x646], [0x633], [0x639]]⟩,
  ⟨0x1EE51, 0x1EE52, [[0x635], [0x642]]⟩,
  ⟨0x1EE54, 0x1EE54, [[0x634]]⟩,
  ⟨0x1EE57, 0x1EE57, [[0x62E]]⟩,
  ⟨0x1EE59, 0x1EE59, [[0x636]]⟩,
  ⟨0x1EE5B, 0x1EE5B, [[0x63A]]⟩,
  ⟨0x1EE5D, 0x1EE5D, [[0x6BA]]⟩,
  ⟨0x1EE5F, 0x1EE5F, [[0x66F]]⟩,
  ⟨0x1EE61, 0x1EE62, [[0x628], [0x62C]]⟩,
  ⟨0x1EE64, 0x1EE64, [[0x647]]⟩]

private def compatibleSpansK : List (Span (List Nat)) := [
  ⟨0x1EE67, 0x1EE6A, [[0x62D], [0x637], [0x64A], [0x643]]⟩,
  ⟨0x1EE6C, 0x1EE72, [[0x645], [0x646], [0x633], [0x639], [0x641], [0x635], [0x642]]⟩,
  ⟨0x1EE74, 0x1EE77, [[0x634], [0x62A], [0x62B], [0x62E]]⟩,
  ⟨0x1EE79, 0x1EE7C, [[0x636], [0x638], [0x63A], [0x66E]]⟩,
  ⟨0x1EE7E, 0x1EE7E, [[0x6A1]]⟩,
  ⟨0x1EE80, 0x1EE89, [
    [0x627], [0x628], [0x62C], [0x62F], [0x647], [0x648], [0x632], [0x62D], [0x637], [0x64A]]⟩,
  ⟨0x1EE8B, 0x1EE9B, [
    [0x644], [0x645], [0x646], [0x633], [0x639], [0x641], [0x635], [0x642], [0x631], [0x634],
    [0x62A], [0x62B], [0x62E], [0x630], [0x636], [0x638], [0x63A]]⟩,
  ⟨0x1EEA1, 0x1EEA3, [[0x628], [0x62C], [0x62F]]⟩,
  ⟨0x1EEA5, 0x1EEA9, [[0x648], [0x632], [0x62D], [0x637], [0x64A]]⟩,
  ⟨0x1EEAB, 0x1EEBB, [
    [0x644], [0x645], [0x646], [0x633], [0x639], [0x641], [0x635], [0x642], [0x631], [0x634],
    [0x62A], [0x62B], [0x62E], [0x630], [0x636], [0x638], [0x63A]]⟩,
  ⟨0x1F100, 0x1F10A, [
    [0x30, 0x2E], [0x30, 0x2C], [0x31, 0x2C], [0x32, 0x2C], [0x33, 0x2C], [0x34, 0x2C],
    [0x35, 0x2C], [0x36, 0x2C], [0x37, 0x2C], [0x38, 0x2C], [0x39, 0x2C]]⟩,
  ⟨0x1F110, 0x1F12E, [
    [0x28, 0x41, 0x29], [0x28, 0x42, 0x29], [0x28, 0x43, 0x29], [0x28, 0x44, 0x29],
    [0x28, 0x45, 0x29], [0x28, 0x46, 0x29], [0x28, 0x47, 0x29], [0x28, 0x48, 0x29],
    [0x28, 0x49, 0x29], [0x28, 0x4A, 0x29], [0x28, 0x4B, 0x29], [0x28, 0x4C, 0x29],
    [0x28, 0x4D, 0x29], [0x28, 0x4E, 0x29], [0x28, 0x4F, 0x29], [0x28, 0x50, 0x29],
    [0x28, 0x51, 0x29], [0x28, 0x52, 0x29], [0x28, 0x53, 0x29], [0x28, 0x54, 0x29],
    [0x28, 0x55, 0x29], [0x28, 0x56, 0x29], [0x28, 0x57, 0x29], [0x28, 0x58, 0x29],
    [0x28, 0x59, 0x29], [0x28, 0x5A, 0x29], [0x3014, 0x53, 0x3015], [0x43], [0x52], [0x43, 0x44],
    [0x57, 0x5A]]⟩,
  ⟨0x1F130, 0x1F14F, [
    [0x41], [0x42], [0x43], [0x44], [0x45], [0x46], [0x47], [0x48], [0x49], [0x4A], [0x4B], [0x4C],
    [0x4D], [0x4E], [0x4F], [0x50], [0x51], [0x52], [0x53], [0x54], [0x55], [0x56], [0x57], [0x58],
    [0x59], [0x5A], [0x48, 0x56], [0x4D, 0x56], [0x53, 0x44], [0x53, 0x53], [0x50, 0x50, 0x56],
    [0x57, 0x43]]⟩,
  ⟨0x1F16A, 0x1F16C, [[0x4D, 0x43], [0x4D, 0x44], [0x4D, 0x52]]⟩,
  ⟨0x1F190, 0x1F190, [[0x44, 0x4A]]⟩,
  ⟨0x1F200, 0x1F202, [[0x307B, 0x304B], [0x30B3, 0x30B3], [0x30B5]]⟩,
  ⟨0x1F210, 0x1F23B, [
    [0x624B], [0x5B57], [0x53CC], [0x30C7], [0x4E8C], [0x591A], [0x89E3], [0x5929], [0x4EA4],
    [0x6620], [0x7121], [0x6599], [0x524D], [0x5F8C], [0x518D], [0x65B0], [0x521D], [0x7D42],
    [0x751F], [0x8CA9], [0x58F0], [0x5439], [0x6F14], [0x6295], [0x6355], [0x4E00], [0x4E09],
    [0x904A], [0x5DE6], [0x4E2D], [0x53F3], [0x6307], [0x8D70], [0x6253], [0x7981], [0x7A7A],
    [0x5408], [0x6E80], [0x6709], [0x6708], [0x7533], [0x5272], [0x55B6], [0x914D]]⟩,
  ⟨0x1F240, 0x1F248, [
    [0x3014, 0x672C, 0x3015], [0x3014, 0x4E09, 0x3015], [0x3014, 0x4E8C, 0x3015],
    [0x3014, 0x5B89, 0x3015], [0x3014, 0x70B9, 0x3015], [0x3014, 0x6253, 0x3015],
    [0x3014, 0x76D7, 0x3015], [0x3014, 0x52DD, 0x3015], [0x3014, 0x6557, 0x3015]]⟩,
  ⟨0x1F250, 0x1F251, [[0x5F97], [0x53EF]]⟩,
  ⟨0x1FBF0, 0x1FBF9, [
    [0x30], [0x31], [0x32], [0x33], [0x34], [0x35], [0x36], [0x37], [0x38], [0x39]]⟩]

def compatibleSpans : List (Span (List Nat)) :=
  compatibleSpansA ++ compatibleSpansB ++ compatibleSpansC ++ compatibleSpansD ++
    compatibleSpansE ++ compatibleSpansF ++ compatibleSpansG ++ compatibleSpansH ++
    compatibleSpansI ++ compatibleSpansJ ++ compatibleSpansK

end Dossier.Text
