/-! Characters of the labels of an internationalised host name, outside ASCII. -/
namespace RouteFeed.Url

/-- The first and the last of a run, and the step between its members. -/
def labelRuns : List (Nat × Nat × Nat) := [
  (0xb7, 0xb7, 1), (0xdf, 0xf6, 1), (0xf8, 0xff, 1), (0x101, 0x131, 2), (0x135, 0x135, 1),
  (0x137, 0x138, 1), (0x13a, 0x13e, 2), (0x142, 0x148, 2), (0x14b, 0x177, 2), (0x17a, 0x180, 2),
  (0x183, 0x183, 1), (0x185, 0x185, 1), (0x188, 0x188, 1), (0x18c, 0x18d, 1), (0x192, 0x192, 1),
  (0x195, 0x195, 1), (0x199, 0x19b, 1), (0x19e, 0x19e, 1), (0x1a1, 0x1a5, 2), (0x1a8, 0x1a8, 1),
  (0x1aa, 0x1ab, 1), (0x1ad, 0x1ad, 1), (0x1b0, 0x1b0, 1), (0x1b4, 0x1b4, 1), (0x1b6, 0x1b6, 1),
  (0x1b9, 0x1bb, 1), (0x1bd, 0x1c3, 1), (0x1ce, 0x1dc, 2), (0x1dd, 0x1ef, 2), (0x1f0, 0x1f0, 1),
  (0x1f5, 0x1f5, 1), (0x1f9, 0x233, 2), (0x234, 0x239, 1), (0x23c, 0x23c, 1), (0x23f, 0x240, 1),
  (0x242, 0x242, 1), (0x247, 0x24f, 2), (0x250, 0x2af, 1), (0x2b9, 0x2c1, 1), (0x2c6, 0x2d1, 1),
  (0x2ec, 0x2ec, 1), (0x2ee, 0x2ee, 1), (0x300, 0x33f, 1), (0x342, 0x342, 1), (0x346, 0x34e, 1),
  (0x350, 0x36f, 1), (0x371, 0x377, 2), (0x37b, 0x37d, 1), (0x390, 0x390, 1), (0x3ac, 0x3ce, 1),
  (0x3d7, 0x3ef, 2), (0x3f3, 0x3f3, 1), (0x3f8, 0x3f8, 1), (0x3fb, 0x3fc, 1), (0x430, 0x45f, 1),
  (0x461, 0x483, 2), (0x484, 0x487, 1), (0x48b, 0x4bf, 2), (0x4c2, 0x4ce, 2), (0x4cf, 0x52f, 2),
  (0x559, 0x559, 1), (0x560, 0x586, 1), (0x588, 0x588, 1), (0x591, 0x5bd, 1), (0x5bf, 0x5bf, 1),
  (0x5c1, 0x5c2, 1), (0x5c4, 0x5c5, 1), (0x5c7, 0x5c7, 1), (0x5d0, 0x5ea, 1), (0x5ef, 0x5f4, 1),
  (0x610, 0x61a, 1), (0x620, 0x63f, 1), (0x641, 0x669, 1), (0x66e, 0x674, 1), (0x679, 0x6d3, 1),
  (0x6d5, 0x6dc, 1), (0x6df, 0x6e8, 1), (0x6ea, 0x6ff, 1), (0x710, 0x74a, 1), (0x74d, 0x7b1, 1),
  (0x7c0, 0x7f5, 1), (0x7fd, 0x7fd, 1), (0x800, 0x82d, 1), (0x840, 0x85b, 1), (0x860, 0x86a, 1),
  (0x870, 0x887, 1), (0x889, 0x88f, 1), (0x897, 0x8e1, 1), (0x8e3, 0x957, 1), (0x960, 0x963, 1),
  (0x966, 0x96f, 1), (0x971, 0x983, 1), (0x985, 0x98c, 1), (0x98f, 0x990, 1), (0x993, 0x9a8, 1),
  (0x9aa, 0x9b0, 1), (0x9b2, 0x9b2, 1), (0x9b6, 0x9b9, 1), (0x9bc, 0x9c4, 1), (0x9c7, 0x9c8, 1),
  (0x9cb, 0x9ce, 1), (0x9d7, 0x9d7, 1), (0x9e0, 0x9e3, 1), (0x9e6, 0x9f1, 1), (0x9fc, 0x9fc, 1),
  (0x9fe, 0x9fe, 1), (0xa01, 0xa03, 1), (0xa05, 0xa0a, 1), (0xa0f, 0xa10, 1), (0xa13, 0xa28, 1),
  (0xa2a, 0xa30, 1), (0xa32, 0xa32, 1), (0xa35, 0xa35, 1), (0xa38, 0xa39, 1), (0xa3c, 0xa3c, 1),
  (0xa3e, 0xa42, 1), (0xa47, 0xa48, 1), (0xa4b, 0xa4d, 1), (0xa51, 0xa51, 1), (0xa5c, 0xa5c, 1),
  (0xa66, 0xa75, 1), (0xa81, 0xa83, 1), (0xa85, 0xa8d, 1), (0xa8f, 0xa91, 1), (0xa93, 0xaa8, 1),
  (0xaaa, 0xab0, 1), (0xab2, 0xab3, 1), (0xab5, 0xab9, 1), (0xabc, 0xac5, 1), (0xac7, 0xac9, 1),
  (0xacb, 0xacd, 1), (0xad0, 0xad0, 1), (0xae0, 0xae3, 1), (0xae6, 0xaef, 1), (0xaf9, 0xaff, 1),
  (0xb01, 0xb03, 1), (0xb05, 0xb0c, 1), (0xb0f, 0xb10, 1), (0xb13, 0xb28, 1), (0xb2a, 0xb30, 1),
  (0xb32, 0xb33, 1), (0xb35, 0xb39, 1), (0xb3c, 0xb44, 1), (0xb47, 0xb48, 1), (0xb4b, 0xb4d, 1),
  (0xb55, 0xb57, 1), (0xb5f, 0xb63, 1), (0xb66, 0xb6f, 1), (0xb71, 0xb71, 1), (0xb82, 0xb83, 1),
  (0xb85, 0xb8a, 1), (0xb8e, 0xb90, 1), (0xb92, 0xb95, 1), (0xb99, 0xb9a, 1), (0xb9c, 0xb9c, 1),
  (0xb9e, 0xb9f, 1), (0xba3, 0xba4, 1), (0xba8, 0xbaa, 1), (0xbae, 0xbb9, 1), (0xbbe, 0xbc2, 1),
  (0xbc6, 0xbc8, 1), (0xbca, 0xbcd, 1), (0xbd0, 0xbd0, 1), (0xbd7, 0xbd7, 1), (0xbe6, 0xbef, 1),
  (0xc00, 0xc0c, 1), (0xc0e, 0xc10, 1), (0xc12, 0xc28, 1), (0xc2a, 0xc39, 1), (0xc3c, 0xc44, 1),
  (0xc46, 0xc48, 1), (0xc4a, 0xc4d, 1), (0xc55, 0xc56, 1), (0xc58, 0xc5a, 1), (0xc5c, 0xc5d, 1),
  (0xc60, 0xc63, 1), (0xc66, 0xc6f, 1), (0xc80, 0xc83, 1), (0xc85, 0xc8c, 1), (0xc8e, 0xc90, 1),
  (0xc92, 0xca8, 1), (0xcaa, 0xcb3, 1), (0xcb5, 0xcb9, 1), (0xcbc, 0xcc4, 1), (0xcc6, 0xcc8, 1),
  (0xcca, 0xccd, 1), (0xcd5, 0xcd6, 1), (0xcdc, 0xcde, 1), (0xce0, 0xce3, 1), (0xce6, 0xcef, 1),
  (0xcf1, 0xcf3, 1), (0xd00, 0xd0c, 1), (0xd0e, 0xd10, 1), (0xd12, 0xd44, 1), (0xd46, 0xd48, 1),
  (0xd4a, 0xd4e, 1), (0xd54, 0xd57, 1), (0xd5f, 0xd63, 1), (0xd66, 0xd6f, 1), (0xd7a, 0xd7f, 1),
  (0xd81, 0xd83, 1), (0xd85, 0xd96, 1), (0xd9a, 0xdb1, 1), (0xdb3, 0xdbb, 1), (0xdbd, 0xdbd, 1),
  (0xdc0, 0xdc6, 1), (0xdca, 0xdca, 1), (0xdcf, 0xdd4, 1), (0xdd6, 0xdd6, 1), (0xdd8, 0xddf, 1),
  (0xde6, 0xdef, 1), (0xdf2, 0xdf3, 1), (0xe01, 0xe32, 1), (0xe34, 0xe3a, 1), (0xe40, 0xe4e, 1),
  (0xe50, 0xe59, 1), (0xe81, 0xe82, 1), (0xe84, 0xe84, 1), (0xe86, 0xe8a, 1), (0xe8c, 0xea3, 1),
  (0xea5, 0xea5, 1), (0xea7, 0xeb2, 1), (0xeb4, 0xebd, 1), (0xec0, 0xec4, 1), (0xec6, 0xec6, 1),
  (0xec8, 0xece, 1), (0xed0, 0xed9, 1), (0xede, 0xedf, 1), (0xf00, 0xf00, 1), (0xf0b, 0xf0b, 1),
  (0xf18, 0xf19, 1), (0xf20, 0xf29, 1), (0xf35, 0xf39, 2), (0xf3e, 0xf42, 1), (0xf44, 0xf47, 1),
  (0xf49, 0xf4c, 1), (0xf4e, 0xf51, 1), (0xf53, 0xf56, 1), (0xf58, 0xf5b, 1), (0xf5d, 0xf68, 1),
  (0xf6a, 0xf6c, 1), (0xf71, 0xf72, 1), (0xf74, 0xf74, 1), (0xf7a, 0xf80, 1), (0xf82, 0xf84, 1),
  (0xf86, 0xf92, 1), (0xf94, 0xf97, 1), (0xf99, 0xf9c, 1), (0xf9e, 0xfa1, 1), (0xfa3, 0xfa6, 1),
  (0xfa8, 0xfab, 1), (0xfad, 0xfb8, 1), (0xfba, 0xfbc, 1), (0xfc6, 0xfc6, 1), (0x1000, 0x1049, 1),
  (0x1050, 0x109d, 1), (0x10d0, 0x10fa, 1), (0x10fd, 0x10ff, 1), (0x1200, 0x1248, 1),
  (0x124a, 0x124d, 1), (0x1250, 0x1256, 1), (0x1258, 0x1258, 1), (0x125a, 0x125d, 1),
  (0x1260, 0x1288, 1), (0x128a, 0x128d, 1), (0x1290, 0x12b0, 1), (0x12b2, 0x12b5, 1),
  (0x12b8, 0x12be, 1), (0x12c0, 0x12c0, 1), (0x12c2, 0x12c5, 1), (0x12c8, 0x12d6, 1),
  (0x12d8, 0x1310, 1), (0x1312, 0x1315, 1), (0x1318, 0x135a, 1), (0x135d, 0x135f, 1),
  (0x1380, 0x138f, 1), (0x13a0, 0x13f5, 1), (0x1401, 0x166c, 1), (0x166f, 0x167f, 1),
  (0x1681, 0x169a, 1), (0x16a0, 0x16ea, 1), (0x16f1, 0x16f8, 1), (0x1700, 0x1715, 1),
  (0x171f, 0x1734, 1), (0x1740, 0x1753, 1), (0x1760, 0x176c, 1), (0x176e, 0x1770, 1),
  (0x1772, 0x1773, 1), (0x1780, 0x17b3, 1), (0x17b6, 0x17d3, 1), (0x17d7, 0x17d7, 1),
  (0x17dc, 0x17dd, 1), (0x17e0, 0x17e9, 1), (0x1810, 0x1819, 1), (0x1820, 0x1878, 1),
  (0x1880, 0x18aa, 1), (0x18b0, 0x18f5, 1), (0x1900, 0x191e, 1), (0x1920, 0x192b, 1),
  (0x1930, 0x193b, 1), (0x1946, 0x196d, 1), (0x1970, 0x1974, 1), (0x1980, 0x19ab, 1),
  (0x19b0, 0x19c9, 1), (0x19d0, 0x19d9, 1), (0x1a00, 0x1a1b, 1), (0x1a20, 0x1a5e, 1),
  (0x1a60, 0x1a7c, 1), (0x1a7f, 0x1a89, 1), (0x1a90, 0x1a99, 1), (0x1aa7, 0x1aa7, 1),
  (0x1ab0, 0x1abd, 1), (0x1abf, 0x1add, 1), (0x1ae0, 0x1aeb, 1), (0x1b00, 0x1b4c, 1),
  (0x1b50, 0x1b59, 1), (0x1b6b, 0x1b73, 1), (0x1b80, 0x1bf3, 1), (0x1c00, 0x1c37, 1),
  (0x1c40, 0x1c49, 1), (0x1c4d, 0x1c7d, 1), (0x1c8a, 0x1c8a, 1), (0x1cd0, 0x1cd2, 1),
  (0x1cd4, 0x1cfa, 1), (0x1d00, 0x1d2b, 1), (0x1d2f, 0x1d2f, 1), (0x1d3b, 0x1d3b, 1),
  (0x1d4e, 0x1d4e, 1), (0x1d6b, 0x1d77, 1), (0x1d79, 0x1d9a, 1), (0x1dc0, 0x1dff, 1),
  (0x1e01, 0x1e95, 2), (0x1e96, 0x1e99, 1), (0x1e9c, 0x1e9d, 1), (0x1e9f, 0x1eff, 2),
  (0x1f00, 0x1f07, 1), (0x1f10, 0x1f15, 1), (0x1f20, 0x1f27, 1), (0x1f30, 0x1f37, 1),
  (0x1f40, 0x1f45, 1), (0x1f50, 0x1f57, 1), (0x1f60, 0x1f67, 1), (0x1f70, 0x1f7c, 2),
  (0x1fb0, 0x1fb1, 1), (0x1fb6, 0x1fb6, 1), (0x1fc6, 0x1fc6, 1), (0x1fd0, 0x1fd2, 1),
  (0x1fd6, 0x1fd7, 1), (0x1fe0, 0x1fe2, 1), (0x1fe4, 0x1fe7, 1), (0x1ff6, 0x1ff6, 1),
  (0x200c, 0x200d, 1), (0x214e, 0x214e, 1), (0x2184, 0x2184, 1), (0x2c30, 0x2c5f, 1),
  (0x2c61, 0x2c61, 1), (0x2c65, 0x2c66, 1), (0x2c68, 0x2c6c, 2), (0x2c71, 0x2c71, 1),
  (0x2c73, 0x2c74, 1), (0x2c76, 0x2c7b, 1), (0x2c81, 0x2ce3, 2), (0x2ce4, 0x2ce4, 1),
  (0x2cec, 0x2cec, 1), (0x2cee, 0x2cf1, 1), (0x2cf3, 0x2cf3, 1), (0x2d00, 0x2d25, 1),
  (0x2d27, 0x2d27, 1), (0x2d2d, 0x2d2d, 1), (0x2d30, 0x2d67, 1), (0x2d7f, 0x2d96, 1),
  (0x2da0, 0x2da6, 1), (0x2da8, 0x2dae, 1), (0x2db0, 0x2db6, 1), (0x2db8, 0x2dbe, 1),
  (0x2dc0, 0x2dc6, 1), (0x2dc8, 0x2dce, 1), (0x2dd0, 0x2dd6, 1), (0x2dd8, 0x2dde, 1),
  (0x2de0, 0x2dff, 1), (0x2e2f, 0x2e2f, 1), (0x3005, 0x3007, 1), (0x302a, 0x302d, 1),
  (0x303c, 0x303c, 1), (0x3041, 0x3096, 1), (0x3099, 0x309a, 1), (0x309d, 0x309e, 1),
  (0x30a1, 0x30fe, 1), (0x3105, 0x312f, 1), (0x31a0, 0x31bf, 1), (0x31f0, 0x31ff, 1),
  (0x3400, 0x4dbf, 1), (0x4e00, 0xa48c, 1), (0xa4d0, 0xa4fd, 1), (0xa500, 0xa60c, 1),
  (0xa610, 0xa62b, 1), (0xa641, 0xa66d, 2), (0xa66e, 0xa66f, 1), (0xa674, 0xa67d, 1),
  (0xa67f, 0xa69b, 2), (0xa69e, 0xa6e5, 1), (0xa6f0, 0xa6f1, 1), (0xa717, 0xa71f, 1),
  (0xa723, 0xa72f, 2), (0xa730, 0xa731, 1), (0xa733, 0xa771, 2), (0xa772, 0xa778, 1),
  (0xa77a, 0xa77a, 1), (0xa77c, 0xa77c, 1), (0xa77f, 0xa787, 2), (0xa788, 0xa788, 1),
  (0xa78c, 0xa78c, 1), (0xa78e, 0xa78f, 1), (0xa791, 0xa791, 1), (0xa793, 0xa795, 1),
  (0xa797, 0xa7a9, 2), (0xa7af, 0xa7af, 1), (0xa7b5, 0xa7c3, 2), (0xa7c8, 0xa7c8, 1),
  (0xa7ca, 0xa7ca, 1), (0xa7cd, 0xa7db, 2), (0xa7f6, 0xa7f7, 1), (0xa7fa, 0xa827, 1),
  (0xa82c, 0xa82c, 1), (0xa840, 0xa873, 1), (0xa880, 0xa8c5, 1), (0xa8d0, 0xa8d9, 1),
  (0xa8e0, 0xa8f7, 1), (0xa8fb, 0xa8fb, 1), (0xa8fd, 0xa92d, 1), (0xa930, 0xa953, 1),
  (0xa980, 0xa9c0, 1), (0xa9cf, 0xa9d9, 1), (0xa9e0, 0xa9fe, 1), (0xaa00, 0xaa36, 1),
  (0xaa40, 0xaa4d, 1), (0xaa50, 0xaa59, 1), (0xaa60, 0xaa76, 1), (0xaa7a, 0xaac2, 1),
  (0xaadb, 0xaadd, 1), (0xaae0, 0xaaef, 1), (0xaaf2, 0xaaf6, 1), (0xab01, 0xab06, 1),
  (0xab09, 0xab0e, 1), (0xab11, 0xab16, 1), (0xab20, 0xab26, 1), (0xab28, 0xab2e, 1),
  (0xab30, 0xab5a, 1), (0xab60, 0xab68, 1), (0xabc0, 0xabea, 1), (0xabec, 0xabed, 1),
  (0xabf0, 0xabf9, 1), (0xac00, 0xd7a3, 1), (0xfa0e, 0xfa0f, 1), (0xfa11, 0xfa11, 1),
  (0xfa13, 0xfa14, 1), (0xfa1f, 0xfa23, 2), (0xfa24, 0xfa24, 1), (0xfa27, 0xfa29, 1),
  (0xfb1e, 0xfb1e, 1), (0xfe20, 0xfe2f, 1), (0xfe73, 0xfe73, 1), (0x10000, 0x1000b, 1),
  (0x1000d, 0x10026, 1), (0x10028, 0x1003a, 1), (0x1003c, 0x1003d, 1), (0x1003f, 0x1004d, 1),
  (0x10050, 0x1005d, 1), (0x10080, 0x100fa, 1), (0x101fd, 0x101fd, 1), (0x10280, 0x1029c, 1),
  (0x102a0, 0x102d0, 1), (0x102e0, 0x102e0, 1), (0x10300, 0x1031f, 1), (0x1032d, 0x10340, 1),
  (0x10342, 0x10349, 1), (0x10350, 0x1037a, 1), (0x10380, 0x1039d, 1), (0x103a0, 0x103c3, 1),
  (0x103c8, 0x103cf, 1), (0x10428, 0x1049d, 1), (0x104a0, 0x104a9, 1), (0x104d8, 0x104fb, 1),
  (0x10500, 0x10527, 1), (0x10530, 0x10563, 1), (0x10597, 0x105a1, 1), (0x105a3, 0x105b1, 1),
  (0x105b3, 0x105b9, 1), (0x105bb, 0x105bc, 1), (0x105c0, 0x105f3, 1), (0x10600, 0x10736, 1),
  (0x10740, 0x10755, 1), (0x10760, 0x10767, 1), (0x10780, 0x10780, 1), (0x10800, 0x10805, 1),
  (0x10808, 0x10808, 1), (0x1080a, 0x10835, 1), (0x10837, 0x10838, 1), (0x1083c, 0x1083c, 1),
  (0x1083f, 0x10855, 1), (0x10860, 0x10876, 1), (0x10880, 0x1089e, 1), (0x108e0, 0x108f2, 1),
  (0x108f4, 0x108f5, 1), (0x10900, 0x10915, 1), (0x10920, 0x10939, 1), (0x10940, 0x10959, 1),
  (0x10980, 0x109b7, 1), (0x109be, 0x109bf, 1), (0x10a00, 0x10a03, 1), (0x10a05, 0x10a06, 1),
  (0x10a0c, 0x10a13, 1), (0x10a15, 0x10a17, 1), (0x10a19, 0x10a35, 1), (0x10a38, 0x10a3a, 1),
  (0x10a3f, 0x10a3f, 1), (0x10a60, 0x10a7c, 1), (0x10a80, 0x10a9c, 1), (0x10ac0, 0x10ac7, 1),
  (0x10ac9, 0x10ae6, 1), (0x10b00, 0x10b35, 1), (0x10b40, 0x10b55, 1), (0x10b60, 0x10b72, 1),
  (0x10b80, 0x10b91, 1), (0x10c00, 0x10c48, 1), (0x10cc0, 0x10cf2, 1), (0x10d00, 0x10d27, 1),
  (0x10d30, 0x10d39, 1), (0x10d40, 0x10d4f, 1), (0x10d69, 0x10d6d, 1), (0x10d6f, 0x10d85, 1),
  (0x10e80, 0x10ea9, 1), (0x10eab, 0x10eac, 1), (0x10eb0, 0x10eb1, 1), (0x10ec2, 0x10ec7, 1),
  (0x10efa, 0x10f1c, 1), (0x10f27, 0x10f27, 1), (0x10f30, 0x10f50, 1), (0x10f70, 0x10f85, 1),
  (0x10fb0, 0x10fc4, 1), (0x10fe0, 0x10ff6, 1), (0x11000, 0x11046, 1), (0x11066, 0x11075, 1),
  (0x1107f, 0x110ba, 1), (0x110c2, 0x110c2, 1), (0x110d0, 0x110e8, 1), (0x110f0, 0x110f9, 1),
  (0x11100, 0x11134, 1), (0x11136, 0x1113f, 1), (0x11144, 0x11147, 1), (0x11150, 0x11173, 1),
  (0x11176, 0x11176, 1), (0x11180, 0x111c4, 1), (0x111c9, 0x111cc, 1), (0x111ce, 0x111da, 1),
  (0x111dc, 0x111dc, 1), (0x11200, 0x11211, 1), (0x11213, 0x11237, 1), (0x1123e, 0x11241, 1),
  (0x11280, 0x11286, 1), (0x11288, 0x11288, 1), (0x1128a, 0x1128d, 1), (0x1128f, 0x1129d, 1),
  (0x1129f, 0x112a8, 1), (0x112b0, 0x112ea, 1), (0x112f0, 0x112f9, 1), (0x11300, 0x11303, 1),
  (0x11305, 0x1130c, 1), (0x1130f, 0x11310, 1), (0x11313, 0x11328, 1), (0x1132a, 0x11330, 1),
  (0x11332, 0x11333, 1), (0x11335, 0x11339, 1), (0x1133b, 0x11344, 1), (0x11347, 0x11348, 1),
  (0x1134b, 0x1134d, 1), (0x11350, 0x11350, 1), (0x11357, 0x11357, 1), (0x1135d, 0x11363, 1),
  (0x11366, 0x1136c, 1), (0x11370, 0x11374, 1), (0x11380, 0x11389, 1), (0x1138b, 0x1138b, 1),
  (0x1138e, 0x1138e, 1), (0x11390, 0x113b5, 1), (0x113b7, 0x113c0, 1), (0x113c2, 0x113c2, 1),
  (0x113c5, 0x113c5, 1), (0x113c7, 0x113ca, 1), (0x113cc, 0x113d3, 1), (0x113e1, 0x113e2, 1),
  (0x11400, 0x1144a, 1), (0x11450, 0x11459, 1), (0x1145e, 0x11461, 1), (0x11480, 0x114c5, 1),
  (0x114c7, 0x114c7, 1), (0x114d0, 0x114d9, 1), (0x11580, 0x115b5, 1), (0x115b8, 0x115c0, 1),
  (0x115d8, 0x115dd, 1), (0x11600, 0x11640, 1), (0x11644, 0x11644, 1), (0x11650, 0x11659, 1),
  (0x11680, 0x116b8, 1), (0x116c0, 0x116c9, 1), (0x116d0, 0x116e3, 1), (0x11700, 0x1171a, 1),
  (0x1171d, 0x1172b, 1), (0x11730, 0x11739, 1), (0x11740, 0x11746, 1), (0x11800, 0x1183a, 1),
  (0x118c0, 0x118e9, 1), (0x118ff, 0x11906, 1), (0x11909, 0x11909, 1), (0x1190c, 0x11913, 1),
  (0x11915, 0x11916, 1), (0x11918, 0x11935, 1), (0x11937, 0x11938, 1), (0x1193b, 0x11943, 1),
  (0x11950, 0x11959, 1), (0x119a0, 0x119a7, 1), (0x119aa, 0x119d7, 1), (0x119da, 0x119e1, 1),
  (0x119e3, 0x119e4, 1), (0x11a00, 0x11a3e, 1), (0x11a47, 0x11a47, 1), (0x11a50, 0x11a99, 1),
  (0x11a9d, 0x11a9d, 1), (0x11ab0, 0x11af8, 1), (0x11b60, 0x11b67, 1), (0x11bc0, 0x11be0, 1),
  (0x11bf0, 0x11bf9, 1), (0x11c00, 0x11c08, 1), (0x11c0a, 0x11c36, 1), (0x11c38, 0x11c40, 1),
  (0x11c50, 0x11c59, 1), (0x11c72, 0x11c8f, 1), (0x11c92, 0x11ca7, 1), (0x11ca9, 0x11cb6, 1),
  (0x11d00, 0x11d06, 1), (0x11d08, 0x11d09, 1), (0x11d0b, 0x11d36, 1), (0x11d3a, 0x11d3a, 1),
  (0x11d3c, 0x11d3d, 1), (0x11d3f, 0x11d47, 1), (0x11d50, 0x11d59, 1), (0x11d60, 0x11d65, 1),
  (0x11d67, 0x11d68, 1), (0x11d6a, 0x11d8e, 1), (0x11d90, 0x11d91, 1), (0x11d93, 0x11d98, 1),
  (0x11da0, 0x11da9, 1), (0x11db0, 0x11ddb, 1), (0x11de0, 0x11de9, 1), (0x11ee0, 0x11ef6, 1),
  (0x11f00, 0x11f10, 1), (0x11f12, 0x11f3a, 1), (0x11f3e, 0x11f42, 1), (0x11f50, 0x11f5a, 1),
  (0x11fb0, 0x11fb0, 1), (0x12000, 0x12399, 1), (0x12480, 0x12543, 1), (0x12f90, 0x12ff0, 1),
  (0x13000, 0x1342f, 1), (0x13440, 0x13455, 1), (0x13460, 0x143fa, 1), (0x14400, 0x14646, 1),
  (0x16100, 0x16139, 1), (0x16800, 0x16a38, 1), (0x16a40, 0x16a5e, 1), (0x16a60, 0x16a69, 1),
  (0x16a70, 0x16abe, 1), (0x16ac0, 0x16ac9, 1), (0x16ad0, 0x16aed, 1), (0x16af0, 0x16af4, 1),
  (0x16b00, 0x16b36, 1), (0x16b40, 0x16b43, 1), (0x16b50, 0x16b59, 1), (0x16b63, 0x16b77, 1),
  (0x16b7d, 0x16b8f, 1), (0x16d40, 0x16d6c, 1), (0x16d70, 0x16d79, 1), (0x16e60, 0x16e7f, 1),
  (0x16ebb, 0x16ed3, 1), (0x16f00, 0x16f4a, 1), (0x16f4f, 0x16f87, 1), (0x16f8f, 0x16f9f, 1),
  (0x16fe0, 0x16fe1, 1), (0x16fe3, 0x16fe4, 1), (0x16ff0, 0x16ff3, 1), (0x17000, 0x18cd5, 1),
  (0x18cff, 0x18d1e, 1), (0x18d80, 0x18df2, 1), (0x1aff0, 0x1aff3, 1), (0x1aff5, 0x1affb, 1),
  (0x1affd, 0x1affe, 1), (0x1b000, 0x1b122, 1), (0x1b132, 0x1b132, 1), (0x1b150, 0x1b152, 1),
  (0x1b155, 0x1b155, 1), (0x1b164, 0x1b167, 1), (0x1b170, 0x1b2fb, 1), (0x1bc00, 0x1bc6a, 1),
  (0x1bc70, 0x1bc7c, 1), (0x1bc80, 0x1bc88, 1), (0x1bc90, 0x1bc99, 1), (0x1bc9d, 0x1bc9e, 1),
  (0x1cf00, 0x1cf2d, 1), (0x1cf30, 0x1cf46, 1), (0x1da00, 0x1da36, 1), (0x1da3b, 0x1da6c, 1),
  (0x1da75, 0x1da75, 1), (0x1da84, 0x1da84, 1), (0x1da9b, 0x1da9f, 1), (0x1daa1, 0x1daaf, 1),
  (0x1df00, 0x1df1e, 1), (0x1df25, 0x1df2a, 1), (0x1e000, 0x1e006, 1), (0x1e008, 0x1e018, 1),
  (0x1e01b, 0x1e021, 1), (0x1e023, 0x1e024, 1), (0x1e026, 0x1e02a, 1), (0x1e08f, 0x1e08f, 1),
  (0x1e100, 0x1e12c, 1), (0x1e130, 0x1e13d, 1), (0x1e140, 0x1e149, 1), (0x1e14e, 0x1e14e, 1),
  (0x1e290, 0x1e2ae, 1), (0x1e2c0, 0x1e2f9, 1), (0x1e4d0, 0x1e4f9, 1), (0x1e5d0, 0x1e5fa, 1),
  (0x1e6c0, 0x1e6de, 1), (0x1e6e0, 0x1e6f5, 1), (0x1e6fe, 0x1e6ff, 1), (0x1e7e0, 0x1e7e6, 1),
  (0x1e7e8, 0x1e7eb, 1), (0x1e7ed, 0x1e7ee, 1), (0x1e7f0, 0x1e7fe, 1), (0x1e800, 0x1e8c4, 1),
  (0x1e8d0, 0x1e8d6, 1), (0x1e922, 0x1e94b, 1), (0x1e950, 0x1e959, 1), (0x20000, 0x2a6df, 1),
  (0x2a700, 0x2b81d, 1), (0x2b820, 0x2cead, 1), (0x2ceb0, 0x2ebe0, 1), (0x2ebf0, 0x2ee5d, 1),
  (0x30000, 0x3134a, 1), (0x31350, 0x33479, 1)]

/-- Whether the sorted runs hold a number. -/
def inSteppedRuns (n : Nat) : List (Nat × Nat × Nat) → Bool
  | [] => false
  | (first, last, step) :: runs =>
    if n < first then false
    else (n ≤ last && (n - first) % step == 0) || inSteppedRuns n runs

/-- Admitted in a label: a small letter, a digit or a hyphen of ASCII, or one of the runs. -/
def isLabelChar (n : Nat) : Bool :=
  if n < 0x80 then
    ('a'.toNat ≤ n && n ≤ 'z'.toNat) || ('0'.toNat ≤ n && n ≤ '9'.toNat) || n == '-'.toNat
  else inSteppedRuns n labelRuns

end RouteFeed.Url
