/-
  Case folding of host names: the characters that a prepared name drops, and
  the characters that it replaces by lower-case ones.

  * `ignored` are the characters without a width of their own (soft hyphens,
    joiners, variation selectors), which a name drops;
  * `spans` and `runs` say what every other folded character becomes;
  * `fold` maps one character to its folded form, which is empty for an ignored
    one and the character itself where no table says otherwise.
-/
import ResolverChain.Unicode.Table

set_option maxRecDepth 20000

namespace ResolverChain.Unicode.CaseFolding

/-- The characters that are dropped. -/
def ignored : List (Nat × Nat) :=
  [(0xAD, 0xAD), (0x34F, 0x34F), (0x1806, 0x1806), (0x180B, 0x180D), (0x200B, 0x200D),
    (0x2060, 0x2060), (0xFE00, 0xFE0F), (0xFEFF, 0xFEFF)]

/-- Stretches of letters with their lower-case counterparts. -/
def spans : List Span :=
  [⟨0x41, 0x5A, 1, 0x61⟩, ⟨0xC0, 0xD6, 1, 0xE0⟩, ⟨0xD8, 0xDE, 1, 0xF8⟩, ⟨0x100, 0x12E, 2, 0x101⟩,
    ⟨0x132, 0x136, 2, 0x133⟩, ⟨0x139, 0x147, 2, 0x13A⟩, ⟨0x14A, 0x176, 2, 0x14B⟩,
    ⟨0x179, 0x17D, 2, 0x17A⟩, ⟨0x1A0, 0x1A4, 2, 0x1A1⟩, ⟨0x1CB, 0x1DB, 2, 0x1CC⟩,
    ⟨0x1DE, 0x1EE, 2, 0x1DF⟩, ⟨0x1F8, 0x21E, 2, 0x1F9⟩, ⟨0x222, 0x232, 2, 0x223⟩,
    ⟨0x246, 0x24E, 2, 0x247⟩, ⟨0x388, 0x38A, 1, 0x3AD⟩, ⟨0x391, 0x3A1, 1, 0x3B1⟩,
    ⟨0x3A3, 0x3AB, 1, 0x3C3⟩, ⟨0x3D8, 0x3EE, 2, 0x3D9⟩, ⟨0x3FD, 0x3FF, 1, 0x37B⟩,
    ⟨0x400, 0x40F, 1, 0x450⟩, ⟨0x410, 0x42F, 1, 0x430⟩, ⟨0x460, 0x480, 2, 0x461⟩,
    ⟨0x48A, 0x4BE, 2, 0x48B⟩, ⟨0x4C1, 0x4CD, 2, 0x4C2⟩, ⟨0x4D0, 0x52E, 2, 0x4D1⟩,
    ⟨0x531, 0x556, 1, 0x561⟩, ⟨0x10A0, 0x10C5, 1, 0x2D00⟩, ⟨0x13A0, 0x13EF, 1, 0xAB70⟩,
    ⟨0x13F0, 0x13F5, 1, 0x13F8⟩, ⟨0x1C90, 0x1CBA, 1, 0x10D0⟩, ⟨0x1CBD, 0x1CBF, 1, 0x10FD⟩,
    ⟨0x1E00, 0x1E94, 2, 0x1E01⟩, ⟨0x1EA0, 0x1EFE, 2, 0x1EA1⟩, ⟨0x1F08, 0x1F0F, 1, 0x1F00⟩,
    ⟨0x1F18, 0x1F1D, 1, 0x1F10⟩, ⟨0x1F28, 0x1F2F, 1, 0x1F20⟩, ⟨0x1F38, 0x1F3F, 1, 0x1F30⟩,
    ⟨0x1F48, 0x1F4D, 1, 0x1F40⟩, ⟨0x1F59, 0x1F5F, 2, 0x1F51⟩, ⟨0x1F68, 0x1F6F, 1, 0x1F60⟩,
    ⟨0x1FC8, 0x1FCB, 1, 0x1F72⟩, ⟨0x2119, 0x211B, 1, 0x70⟩, ⟨0x2160, 0x216F, 1, 0x2170⟩,
    ⟨0x24B6, 0x24CF, 1, 0x24D0⟩, ⟨0x2C00, 0x2C2F, 1, 0x2C30⟩, ⟨0x2C67, 0x2C6B, 2, 0x2C68⟩,
    ⟨0x2C80, 0x2CE2, 2, 0x2C81⟩, ⟨0xA640, 0xA66C, 2, 0xA641⟩, ⟨0xA680, 0xA69A, 2, 0xA681⟩,
    ⟨0xA722, 0xA72E, 2, 0xA723⟩, ⟨0xA732, 0xA76E, 2, 0xA733⟩, ⟨0xA77E, 0xA786, 2, 0xA77F⟩,
    ⟨0xA796, 0xA7A8, 2, 0xA797⟩, ⟨0xA7B4, 0xA7C2, 2, 0xA7B5⟩, ⟨0xFF21, 0xFF3A, 1, 0xFF41⟩,
    ⟨0x10400, 0x10427, 1, 0x10428⟩, ⟨0x104B0, 0x104D3, 1, 0x104D8⟩,
    ⟨0x10570, 0x1057A, 1, 0x10597⟩, ⟨0x1057C, 0x1058A, 1, 0x105A3⟩,
    ⟨0x1058C, 0x10592, 1, 0x105B3⟩, ⟨0x10C80, 0x10CB2, 1, 0x10CC0⟩,
    ⟨0x118A0, 0x118BF, 1, 0x118C0⟩, ⟨0x16E40, 0x16E5F, 1, 0x16E60⟩, ⟨0x1D400, 0x1D419, 1, 0x61⟩,
    ⟨0x1D434, 0x1D44D, 1, 0x61⟩, ⟨0x1D468, 0x1D481, 1, 0x61⟩, ⟨0x1D4A9, 0x1D4AC, 1, 0x6E⟩,
    ⟨0x1D4AE, 0x1D4B5, 1, 0x73⟩, ⟨0x1D4D0, 0x1D4E9, 1, 0x61⟩, ⟨0x1D507, 0x1D50A, 1, 0x64⟩,
    ⟨0x1D50D, 0x1D514, 1, 0x6A⟩, ⟨0x1D516, 0x1D51C, 1, 0x73⟩, ⟨0x1D53B, 0x1D53E, 1, 0x64⟩,
    ⟨0x1D540, 0x1D544, 1, 0x69⟩, ⟨0x1D54A, 0x1D550, 1, 0x73⟩, ⟨0x1D56C, 0x1D585, 1, 0x61⟩,
    ⟨0x1D5A0, 0x1D5B9, 1, 0x61⟩, ⟨0x1D5D4, 0x1D5ED, 1, 0x61⟩, ⟨0x1D608, 0x1D621, 1, 0x61⟩,
    ⟨0x1D63C, 0x1D655, 1, 0x61⟩, ⟨0x1D670, 0x1D689, 1, 0x61⟩, ⟨0x1D6A8, 0x1D6B8, 1, 0x3B1⟩,
    ⟨0x1D6BA, 0x1D6C0, 1, 0x3C3⟩, ⟨0x1D6E2, 0x1D6F2, 1, 0x3B1⟩, ⟨0x1D6F4, 0x1D6FA, 1, 0x3C3⟩,
    ⟨0x1D71C, 0x1D72C, 1, 0x3B1⟩, ⟨0x1D72E, 0x1D734, 1, 0x3C3⟩, ⟨0x1D756, 0x1D766, 1, 0x3B1⟩,
    ⟨0x1D768, 0x1D76E, 1, 0x3C3⟩, ⟨0x1D790, 0x1D7A0, 1, 0x3B1⟩, ⟨0x1D7A2, 0x1D7A8, 1, 0x3C3⟩,
    ⟨0x1E900, 0x1E921, 1, 0x1E922⟩]

/-- Letters on their own, and those that fold to several characters. -/
def runs : List Run :=
  [⟨0xB5, [[0x3BC]]⟩, ⟨0xDF, [[0x73, 0x73]]⟩, ⟨0x130, [[0x69, 0x307]]⟩, ⟨0x149, [[0x2BC, 0x6E]]⟩,
   ⟨0x178, [[0xFF]]⟩, ⟨0x17F, [[0x73]]⟩, ⟨0x181, [[0x253], [0x183]]⟩, ⟨0x184, [[0x185]]⟩,
   ⟨0x186, [[0x254], [0x188]]⟩, ⟨0x189, [[0x256], [0x257], [0x18C]]⟩,
   ⟨0x18E, [[0x1DD], [0x259], [0x25B], [0x192]]⟩, ⟨0x193, [[0x260], [0x263]]⟩,
   ⟨0x196, [[0x269], [0x268], [0x199]]⟩, ⟨0x19C, [[0x26F], [0x272]]⟩, ⟨0x19F, [[0x275]]⟩,
   ⟨0x1A6, [[0x280], [0x1A8]]⟩, ⟨0x1A9, [[0x283]]⟩, ⟨0x1AC, [[0x1AD]]⟩,
   ⟨0x1AE, [[0x288], [0x1B0]]⟩, ⟨0x1B1, [[0x28A], [0x28B], [0x1B4]]⟩, ⟨0x1B5, [[0x1B6]]⟩,
   ⟨0x1B7, [[0x292], [0x1B9]]⟩, ⟨0x1BC, [[0x1BD]]⟩, ⟨0x1C4, [[0x1C6], [0x1C6]]⟩,
   ⟨0x1C7, [[0x1C9], [0x1C9]]⟩, ⟨0x1CA, [[0x1CC]]⟩, ⟨0x1F0, [[0x6A, 0x30C], [0x1F3], [0x1F3]]⟩,
   ⟨0x1F4, [[0x1F5]]⟩, ⟨0x1F6, [[0x195], [0x1BF]]⟩, ⟨0x220, [[0x19E]]⟩,
   ⟨0x23A, [[0x2C65], [0x23C]]⟩, ⟨0x23D, [[0x19A], [0x2C66]]⟩, ⟨0x241, [[0x242]]⟩,
   ⟨0x243, [[0x180], [0x289], [0x28C]]⟩, ⟨0x345, [[0x3B9]]⟩, ⟨0x370, [[0x371]]⟩,
   ⟨0x372, [[0x373]]⟩, ⟨0x376, [[0x377]]⟩, ⟨0x37A, [[0x20, 0x3B9]]⟩, ⟨0x37F, [[0x3F3]]⟩,
   ⟨0x386, [[0x3AC]]⟩, ⟨0x38C, [[0x3CC]]⟩, ⟨0x38E, [[0x3CD], [0x3CE], [0x3B9, 0x308, 0x301]]⟩,
   ⟨0x3B0, [[0x3C5, 0x308, 0x301]]⟩, ⟨0x3C2, [[0x3C3]]⟩,
   ⟨0x3CF, [[0x3D7], [0x3B2], [0x3B8], [0x3C5], [0x3CD], [0x3CB], [0x3C6], [0x3C0]]⟩,
   ⟨0x3F0, [[0x3BA], [0x3C1], [0x3C3]]⟩, ⟨0x3F4, [[0x3B8], [0x3B5]]⟩, ⟨0x3F7, [[0x3F8]]⟩,
   ⟨0x3F9, [[0x3C3], [0x3FB]]⟩, ⟨0x4C0, [[0x4CF]]⟩, ⟨0x587, [[0x565, 0x582]]⟩,
   ⟨0x10C7, [[0x2D27]]⟩, ⟨0x10CD, [[0x2D2D]]⟩,
   ⟨0x1E96, [[0x68, 0x331], [0x74, 0x308], [0x77, 0x30A], [0x79, 0x30A], [0x61, 0x2BE], [0x1E61]]⟩,
   ⟨0x1E9E, [[0x73, 0x73]]⟩, ⟨0x1F50, [[0x3C5, 0x313]]⟩, ⟨0x1F52, [[0x3C5, 0x313, 0x300]]⟩,
   ⟨0x1F54, [[0x3C5, 0x313, 0x301]]⟩, ⟨0x1F56, [[0x3C5, 0x313, 0x342]]⟩,
   ⟨0x1F80, [[0x1F00, 0x3B9], [0x1F01, 0x3B9], [0x1F02, 0x3B9], [0x1F03, 0x3B9], [0x1F04, 0x3B9],
        [0x1F05, 0x3B9], [0x1F06, 0x3B9], [0x1F07, 0x3B9], [0x1F00, 0x3B9], [0x1F01, 0x3B9],
        [0x1F02, 0x3B9], [0x1F03, 0x3B9], [0x1F04, 0x3B9], [0x1F05, 0x3B9], [0x1F06, 0x3B9],
        [0x1F07, 0x3B9], [0x1F20, 0x3B9], [0x1F21, 0x3B9], [0x1F22, 0x3B9], [0x1F23, 0x3B9],
        [0x1F24, 0x3B9], [0x1F25, 0x3B9], [0x1F26, 0x3B9], [0x1F27, 0x3B9], [0x1F20, 0x3B9],
        [0x1F21, 0x3B9], [0x1F22, 0x3B9], [0x1F23, 0x3B9], [0x1F24, 0x3B9], [0x1F25, 0x3B9],
        [0x1F26, 0x3B9], [0x1F27, 0x3B9], [0x1F60, 0x3B9], [0x1F61, 0x3B9], [0x1F62, 0x3B9],
        [0x1F63, 0x3B9], [0x1F64, 0x3B9], [0x1F65, 0x3B9], [0x1F66, 0x3B9], [0x1F67, 0x3B9],
        [0x1F60, 0x3B9], [0x1F61, 0x3B9], [0x1F62, 0x3B9], [0x1F63, 0x3B9], [0x1F64, 0x3B9],
        [0x1F65, 0x3B9], [0x1F66, 0x3B9], [0x1F67, 0x3B9]]⟩,
   ⟨0x1FB2, [[0x1F70, 0x3B9], [0x3B1, 0x3B9], [0x3AC, 0x3B9]]⟩,
   ⟨0x1FB6, [[0x3B1, 0x342], [0x3B1, 0x342, 0x3B9], [0x1FB0], [0x1FB1], [0x1F70], [0x1F71],
        [0x3B1, 0x3B9]]⟩,
   ⟨0x1FBE, [[0x3B9]]⟩, ⟨0x1FC2, [[0x1F74, 0x3B9], [0x3B7, 0x3B9], [0x3AE, 0x3B9]]⟩,
   ⟨0x1FC6, [[0x3B7, 0x342], [0x3B7, 0x342, 0x3B9]]⟩, ⟨0x1FCC, [[0x3B7, 0x3B9]]⟩,
   ⟨0x1FD2, [[0x3B9, 0x308, 0x300], [0x3B9, 0x308, 0x301]]⟩,
   ⟨0x1FD6, [[0x3B9, 0x342], [0x3B9, 0x308, 0x342], [0x1FD0], [0x1FD1], [0x1F76], [0x1F77]]⟩,
   ⟨0x1FE2, [[0x3C5, 0x308, 0x300], [0x3C5, 0x308, 0x301], [0x3C1, 0x313]]⟩,
   ⟨0x1FE6, [[0x3C5, 0x342], [0x3C5, 0x308, 0x342], [0x1FE0], [0x1FE1], [0x1F7A], [0x1F7B], [0x1FE5]]⟩,
   ⟨0x1FF2, [[0x1F7C, 0x3B9], [0x3C9, 0x3B9], [0x3CE, 0x3B9]]⟩,
   ⟨0x1FF6, [[0x3C9, 0x342], [0x3C9, 0x342, 0x3B9], [0x1F78], [0x1F79], [0x1F7C], [0x1F7D],
        [0x3C9, 0x3B9]]⟩,
   ⟨0x20A8, [[0x72, 0x73]]⟩, ⟨0x2102, [[0x63], [0xB0, 0x63]]⟩, ⟨0x2107, [[0x25B]]⟩,
   ⟨0x2109, [[0xB0, 0x66]]⟩, ⟨0x210B, [[0x68], [0x68], [0x68]]⟩,
   ⟨0x2110, [[0x69], [0x69], [0x6C]]⟩, ⟨0x2115, [[0x6E], [0x6E, 0x6F]]⟩,
   ⟨0x211C, [[0x72], [0x72]]⟩, ⟨0x2120, [[0x73, 0x6D], [0x74, 0x65, 0x6C], [0x74, 0x6D]]⟩,
   ⟨0x2124, [[0x7A]]⟩, ⟨0x2126, [[0x3C9]]⟩, ⟨0x2128, [[0x7A]]⟩,
   ⟨0x212A, [[0x6B], [0xE5], [0x62], [0x63]]⟩, ⟨0x2130, [[0x65], [0x66], [0x214E], [0x6D]]⟩,
   ⟨0x213E, [[0x3B3], [0x3C0]]⟩, ⟨0x2145, [[0x64]]⟩, ⟨0x2183, [[0x2184]]⟩, ⟨0x2C60, [[0x2C61]]⟩,
   ⟨0x2C62, [[0x26B], [0x1D7D], [0x27D]]⟩, ⟨0x2C6D, [[0x251], [0x271], [0x250], [0x252]]⟩,
   ⟨0x2C72, [[0x2C73]]⟩, ⟨0x2C75, [[0x2C76]]⟩, ⟨0x2C7E, [[0x23F], [0x240]]⟩, ⟨0x2CEB, [[0x2CEC]]⟩,
   ⟨0x2CED, [[0x2CEE]]⟩, ⟨0x2CF2, [[0x2CF3]]⟩, ⟨0x3371, [[0x68, 0x70, 0x61]]⟩,
   ⟨0x3373, [[0x61, 0x75]]⟩, ⟨0x3375, [[0x6F, 0x76]]⟩,
   ⟨0x3380, [[0x70, 0x61], [0x6E, 0x61], [0x3BC, 0x61], [0x6D, 0x61], [0x6B, 0x61], [0x6B, 0x62],
        [0x6D, 0x62], [0x67, 0x62]]⟩,
   ⟨0x338A, [[0x70, 0x66], [0x6E, 0x66], [0x3BC, 0x66]]⟩,
   ⟨0x3390, [[0x68, 0x7A], [0x6B, 0x68, 0x7A], [0x6D, 0x68, 0x7A], [0x67, 0x68, 0x7A],
        [0x74, 0x68, 0x7A]]⟩,
   ⟨0x33A9, [[0x70, 0x61], [0x6B, 0x70, 0x61], [0x6D, 0x70, 0x61], [0x67, 0x70, 0x61]]⟩,
   ⟨0x33B4, [[0x70, 0x76], [0x6E, 0x76], [0x3BC, 0x76], [0x6D, 0x76], [0x6B, 0x76], [0x6D, 0x76],
        [0x70, 0x77], [0x6E, 0x77], [0x3BC, 0x77], [0x6D, 0x77], [0x6B, 0x77], [0x6D, 0x77],
        [0x6B, 0x3C9], [0x6D, 0x3C9]]⟩,
   ⟨0x33C3, [[0x62, 0x71]]⟩,
   ⟨0x33C6, [[0x63, 0x2215, 0x6B, 0x67], [0x63, 0x6F, 0x2E], [0x64, 0x62], [0x67, 0x79]]⟩,
   ⟨0x33CB, [[0x68, 0x70]]⟩, ⟨0x33CD, [[0x6B, 0x6B], [0x6B, 0x6D]]⟩, ⟨0x33D7, [[0x70, 0x68]]⟩,
   ⟨0x33D9, [[0x70, 0x70, 0x6D], [0x70, 0x72]]⟩, ⟨0x33DC, [[0x73, 0x76], [0x77, 0x62]]⟩,
   ⟨0xA779, [[0xA77A]]⟩, ⟨0xA77B, [[0xA77C]]⟩, ⟨0xA77D, [[0x1D79]]⟩, ⟨0xA78B, [[0xA78C]]⟩,
   ⟨0xA78D, [[0x265]]⟩, ⟨0xA790, [[0xA791]]⟩, ⟨0xA792, [[0xA793]]⟩,
   ⟨0xA7AA, [[0x266], [0x25C], [0x261], [0x26C], [0x26A]]⟩,
   ⟨0xA7B0, [[0x29E], [0x287], [0x29D], [0xAB53]]⟩,
   ⟨0xA7C4, [[0xA794], [0x282], [0x1D8E], [0xA7C8]]⟩, ⟨0xA7C9, [[0xA7CA]]⟩, ⟨0xA7D0, [[0xA7D1]]⟩,
   ⟨0xA7D6, [[0xA7D7]]⟩, ⟨0xA7D8, [[0xA7D9]]⟩, ⟨0xA7F5, [[0xA7F6]]⟩,
   ⟨0xFB00, [[0x66, 0x66], [0x66, 0x69], [0x66, 0x6C], [0x66, 0x66, 0x69], [0x66, 0x66, 0x6C],
        [0x73, 0x74], [0x73, 0x74]]⟩,
   ⟨0xFB13, [[0x574, 0x576], [0x574, 0x565], [0x574, 0x56B], [0x57E, 0x576], [0x574, 0x56D]]⟩,
   ⟨0x10594, [[0x105BB], [0x105BC]]⟩, ⟨0x1D49C, [[0x61]]⟩, ⟨0x1D49E, [[0x63], [0x64]]⟩,
   ⟨0x1D4A2, [[0x67]]⟩, ⟨0x1D4A5, [[0x6A], [0x6B]]⟩, ⟨0x1D504, [[0x61], [0x62]]⟩,
   ⟨0x1D538, [[0x61], [0x62]]⟩, ⟨0x1D546, [[0x6F]]⟩, ⟨0x1D6B9, [[0x3B8]]⟩, ⟨0x1D6D3, [[0x3C3]]⟩,
   ⟨0x1D6F3, [[0x3B8]]⟩, ⟨0x1D70D, [[0x3C3]]⟩, ⟨0x1D72D, [[0x3B8]]⟩, ⟨0x1D747, [[0x3C3]]⟩,
   ⟨0x1D767, [[0x3B8]]⟩, ⟨0x1D781, [[0x3C3]]⟩, ⟨0x1D7A1, [[0x3B8]]⟩, ⟨0x1D7BB, [[0x3C3]]⟩]

/-- The folded form of one character. -/
def fold (c : Char) : List Char :=
  if inRanges ignored c.toNat then [] else (image? spans runs c.toNat).getD [c]

end ResolverChain.Unicode.CaseFolding
