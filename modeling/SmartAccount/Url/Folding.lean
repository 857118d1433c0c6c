import SmartAccount.Text.Unprintable
/-!
# Folding the letters of a domain

The name of a domain is read without some characters that do not show, and with its letters in
one form: in lower case, wide and ornamented forms as plain ones, every full stop as a dot.
Foldings among letters outside ASCII are left out where nothing depends on them: whether the name
is allowed is the same before and after. Those that matter are foldings into ASCII and foldings
between letters and marks.
-/

namespace SmartAccount.Url

open Text (Ranges Runs)

/-- Characters that a domain is read without. -/
def ignoredRanges : Ranges := #[
  (0xad, 0xad), (0x34f, 0x34f), (0x115f, 0x1160), (0x17b4, 0x17b5), (0x180b, 0x180f),
  (0x200b, 0x200b), (0x2060, 0x2064), (0x206a, 0x206f), (0x3164, 0x3164), (0xfe00, 0xfe0f),
  (0xfeff, 0xfeff), (0xffa0, 0xffa0), (0x1bca0, 0x1bca3), (0x1d173, 0x1d17a), (0xe0100, 0xe01ef)]

/-- Characters that show but that no domain holds, beside those of ASCII. -/
def refusedRanges : Ranges := #[
  (0xa8, 0xa8), (0xaf, 0xaf), (0xb4, 0xb4), (0xb8, 0xb8), (0x2d8, 0x2dd), (0x37a, 0x37a),
  (0x384, 0x385), (0x1fbd, 0x1fbd), (0x1fbf, 0x1fc1), (0x1fcd, 0x1fcf), (0x1fdd, 0x1fdf),
  (0x1fed, 0x1fee), (0x1ffd, 0x1ffe), (0x2017, 0x2017), (0x2024, 0x2026), (0x203e, 0x203e),
  (0x2047, 0x2049), (0x2100, 0x2101), (0x2105, 0x2106), (0x2488, 0x249b), (0x2a74, 0x2a74),
  (0x2ff0, 0x2fff), (0x309b, 0x309c), (0x31ef, 0x31ef), (0x33c2, 0x33c2), (0x33c7, 0x33c7),
  (0x33d8, 0x33d8), (0xfc5e, 0xfc63), (0xfdfa, 0xfdfb), (0xfe12, 0xfe12), (0xfe19, 0xfe19),
  (0xfe30, 0xfe30), (0xfe49, 0xfe4c), (0xfe52, 0xfe52), (0xfe70, 0xfe70), (0xfe72, 0xfe72),
  (0xfe74, 0xfe74), (0xfe76, 0xfe76), (0xfe78, 0xfe78), (0xfe7a, 0xfe7a), (0xfe7c, 0xfe7c),
  (0xfe7e, 0xfe7e), (0xffe3, 0xffe3), (0xfffc, 0xfffd), (0x1f100, 0x1f100)]

/-- Runs of characters that fold into other ones: the first and the last of the run, and what
the first one folds into; the next one folds into the next. -/
def foldedRuns : Runs := #[
  (0xaa, 0xaa, 0x61), (0xb2, 0xb3, 0x32), (0xb9, 0xb9, 0x31), (0xba, 0xba, 0x6f),
  (0x17f, 0x17f, 0x73), (0x2b0, 0x2b0, 0x68), (0x2b2, 0x2b2, 0x6a), (0x2b3, 0x2b3, 0x72),
  (0x2b7, 0x2b7, 0x77), (0x2b8, 0x2b8, 0x79), (0x2e1, 0x2e1, 0x6c), (0x2e2, 0x2e2, 0x73),
  (0x2e3, 0x2e3, 0x78), (0x345, 0x345, 0x3b9), (0x37e, 0x37e, 0x3b), (0xe33, 0xe33, 0xe4d),
  (0xeb3, 0xeb3, 0xecd), (0x1d2c, 0x1d2c, 0x61), (0x1d2e, 0x1d2e, 0x62), (0x1d30, 0x1d31, 0x64),
  (0x1d33, 0x1d3a, 0x67), (0x1d3c, 0x1d3c, 0x6f), (0x1d3e, 0x1d3e, 0x70), (0x1d3f, 0x1d3f, 0x72),
  (0x1d40, 0x1d41, 0x74), (0x1d42, 0x1d42, 0x77), (0x1d43, 0x1d43, 0x61), (0x1d47, 0x1d47, 0x62),
  (0x1d48, 0x1d49, 0x64), (0x1d4d, 0x1d4d, 0x67), (0x1d4f, 0x1d4f, 0x6b), (0x1d50, 0x1d50, 0x6d),
  (0x1d52, 0x1d52, 0x6f), (0x1d56, 0x1d56, 0x70), (0x1d57, 0x1d58, 0x74), (0x1d5b, 0x1d5b, 0x76),
  (0x1d62, 0x1d62, 0x69), (0x1d63, 0x1d63, 0x72), (0x1d64, 0x1d65, 0x75), (0x1d9c, 0x1d9c, 0x63),
  (0x1da0, 0x1da0, 0x66), (0x1dbb, 0x1dbb, 0x7a), (0x1fef, 0x1fef, 0x60), (0x2070, 0x2070, 0x30),
  (0x2071, 0x2071, 0x69), (0x2074, 0x2079, 0x34), (0x207a, 0x207a, 0x2b), (0x207c, 0x207c, 0x3d),
  (0x207d, 0x207e, 0x28), (0x207f, 0x207f, 0x6e), (0x2080, 0x2089, 0x30), (0x208a, 0x208a, 0x2b),
  (0x208c, 0x208c, 0x3d), (0x208d, 0x208e, 0x28), (0x2090, 0x2090, 0x61), (0x2091, 0x2091, 0x65),
  (0x2092, 0x2092, 0x6f), (0x2093, 0x2093, 0x78), (0x2095, 0x2095, 0x68), (0x2096, 0x2099, 0x6b),
  (0x209a, 0x209a, 0x70), (0x209b, 0x209c, 0x73), (0x2102, 0x2102, 0x63), (0x210a, 0x210b, 0x67),
  (0x210c, 0x210c, 0x68), (0x210d, 0x210d, 0x68), (0x210e, 0x210e, 0x68), (0x2110, 0x2110, 0x69),
  (0x2111, 0x2111, 0x69), (0x2112, 0x2112, 0x6c), (0x2113, 0x2113, 0x6c), (0x2115, 0x2115, 0x6e),
  (0x2119, 0x211b, 0x70), (0x211c, 0x211c, 0x72), (0x211d, 0x211d, 0x72), (0x2124, 0x2124, 0x7a),
  (0x2128, 0x2128, 0x7a), (0x212a, 0x212a, 0x6b), (0x212c, 0x212d, 0x62), (0x212f, 0x212f, 0x65),
  (0x2130, 0x2131, 0x65), (0x2133, 0x2133, 0x6d), (0x2134, 0x2134, 0x6f), (0x2139, 0x2139, 0x69),
  (0x2145, 0x2145, 0x64), (0x2146, 0x2147, 0x64), (0x2148, 0x2149, 0x69), (0x2160, 0x2160, 0x69),
  (0x2164, 0x2164, 0x76), (0x2169, 0x2169, 0x78), (0x216c, 0x216c, 0x6c), (0x216d, 0x216e, 0x63),
  (0x216f, 0x216f, 0x6d), (0x2170, 0x2170, 0x69), (0x2174, 0x2174, 0x76), (0x2179, 0x2179, 0x78),
  (0x217c, 0x217c, 0x6c), (0x217d, 0x217e, 0x63), (0x217f, 0x217f, 0x6d), (0x2460, 0x2468, 0x31),
  (0x24b6, 0x24cf, 0x61), (0x24d0, 0x24e9, 0x61), (0x24ea, 0x24ea, 0x30), (0x2c7c, 0x2c7c, 0x6a),
  (0x2c7d, 0x2c7d, 0x76), (0x3002, 0x3002, 0x2e), (0xa7f1, 0xa7f1, 0x73), (0xa7f2, 0xa7f2, 0x63),
  (0xa7f3, 0xa7f3, 0x66), (0xa7f4, 0xa7f4, 0x71), (0xfb29, 0xfb29, 0x2b), (0xfe10, 0xfe10, 0x2c),
  (0xfe13, 0xfe14, 0x3a), (0xfe15, 0xfe15, 0x21), (0xfe16, 0xfe16, 0x3f), (0xfe33, 0xfe33, 0x5f),
  (0xfe34, 0xfe34, 0x5f), (0xfe35, 0xfe36, 0x28), (0xfe37, 0xfe37, 0x7b), (0xfe38, 0xfe38, 0x7d),
  (0xfe47, 0xfe47, 0x5b), (0xfe48, 0xfe48, 0x5d), (0xfe4d, 0xfe4d, 0x5f), (0xfe4e, 0xfe4e, 0x5f),
  (0xfe4f, 0xfe4f, 0x5f), (0xfe50, 0xfe50, 0x2c), (0xfe54, 0xfe54, 0x3b), (0xfe55, 0xfe55, 0x3a),
  (0xfe56, 0xfe56, 0x3f), (0xfe57, 0xfe57, 0x21), (0xfe59, 0xfe5a, 0x28), (0xfe5b, 0xfe5b, 0x7b),
  (0xfe5c, 0xfe5c, 0x7d), (0xfe5f, 0xfe5f, 0x23), (0xfe60, 0xfe60, 0x26), (0xfe61, 0xfe62, 0x2a),
  (0xfe63, 0xfe63, 0x2d), (0xfe64, 0xfe64, 0x3c), (0xfe65, 0xfe65, 0x3e), (0xfe66, 0xfe66, 0x3d),
  (0xfe68, 0xfe68, 0x5c), (0xfe69, 0xfe6a, 0x24), (0xfe6b, 0xfe6b, 0x40), (0xff01, 0xff20, 0x21),
  (0xff21, 0xff3a, 0x61), (0xff3b, 0xff5e, 0x5b), (0xff61, 0xff61, 0x2e), (0xff9e, 0xff9f, 0x3099),
  (0x107a5, 0x107a5, 0x71), (0x1ccd6, 0x1ccef, 0x61), (0x1ccf0, 0x1ccf9, 0x30),
  (0x1d400, 0x1d419, 0x61), (0x1d41a, 0x1d433, 0x61), (0x1d434, 0x1d44d, 0x61),
  (0x1d44e, 0x1d454, 0x61), (0x1d456, 0x1d467, 0x69), (0x1d468, 0x1d481, 0x61),
  (0x1d482, 0x1d49b, 0x61), (0x1d49c, 0x1d49c, 0x61), (0x1d49e, 0x1d49f, 0x63),
  (0x1d4a2, 0x1d4a2, 0x67), (0x1d4a5, 0x1d4a6, 0x6a), (0x1d4a9, 0x1d4ac, 0x6e),
  (0x1d4ae, 0x1d4b5, 0x73), (0x1d4b6, 0x1d4b9, 0x61), (0x1d4bb, 0x1d4bb, 0x66),
  (0x1d4bd, 0x1d4c3, 0x68), (0x1d4c5, 0x1d4cf, 0x70), (0x1d4d0, 0x1d4e9, 0x61),
  (0x1d4ea, 0x1d503, 0x61), (0x1d504, 0x1d505, 0x61), (0x1d507, 0x1d50a, 0x64),
  (0x1d50d, 0x1d514, 0x6a), (0x1d516, 0x1d51c, 0x73), (0x1d51e, 0x1d537, 0x61),
  (0x1d538, 0x1d539, 0x61), (0x1d53b, 0x1d53e, 0x64), (0x1d540, 0x1d544, 0x69),
  (0x1d546, 0x1d546, 0x6f), (0x1d54a, 0x1d550, 0x73), (0x1d552, 0x1d56b, 0x61),
  (0x1d56c, 0x1d585, 0x61), (0x1d586, 0x1d59f, 0x61), (0x1d5a0, 0x1d5b9, 0x61),
  (0x1d5ba, 0x1d5d3, 0x61), (0x1d5d4, 0x1d5ed, 0x61), (0x1d5ee, 0x1d607, 0x61),
  (0x1d608, 0x1d621, 0x61), (0x1d622, 0x1d63b, 0x61), (0x1d63c, 0x1d655, 0x61),
  (0x1d656, 0x1d66f, 0x61), (0x1d670, 0x1d689, 0x61), (0x1d68a, 0x1d6a3, 0x61),
  (0x1d7ce, 0x1d7d7, 0x30), (0x1d7d8, 0x1d7e1, 0x30), (0x1d7e2, 0x1d7eb, 0x30),
  (0x1d7ec, 0x1d7f5, 0x30), (0x1d7f6, 0x1d7ff, 0x30), (0x1f12b, 0x1f12b, 0x63),
  (0x1f12c, 0x1f12c, 0x72), (0x1f130, 0x1f149, 0x61), (0x1fbf0, 0x1fbf9, 0x30)]

/-- Runs of characters outside ASCII that fold into other ones: the first and the last of the
run, and the distance between two of them. -/
def unstableRuns : Runs := #[
  (0xa0, 0xa0, 2), (0xa8, 0xaa, 2), (0xaf, 0xaf, 2), (0xb2, 0xb5, 1), (0xb8, 0xba, 1),
  (0xbc, 0xbe, 1), (0xc0, 0xd6, 1), (0xd8, 0xde, 1), (0x100, 0x130, 2), (0x132, 0x134, 1),
  (0x136, 0x136, 2), (0x139, 0x13d, 2), (0x13f, 0x141, 1), (0x143, 0x147, 2), (0x149, 0x14a, 1),
  (0x14c, 0x176, 2), (0x178, 0x179, 1), (0x17b, 0x17f, 2), (0x181, 0x182, 1), (0x184, 0x184, 2),
  (0x186, 0x187, 1), (0x189, 0x18b, 1), (0x18e, 0x191, 1), (0x193, 0x194, 1), (0x196, 0x198, 1),
  (0x19c, 0x19d, 1), (0x19f, 0x1a0, 1), (0x1a2, 0x1a4, 2), (0x1a6, 0x1a7, 1), (0x1a9, 0x1a9, 2),
  (0x1ac, 0x1ac, 2), (0x1ae, 0x1af, 1), (0x1b1, 0x1b3, 1), (0x1b5, 0x1b5, 2), (0x1b7, 0x1b8, 1),
  (0x1bc, 0x1bc, 2), (0x1c4, 0x1cd, 1), (0x1cf, 0x1db, 2), (0x1de, 0x1ee, 2), (0x1f1, 0x1f4, 1),
  (0x1f6, 0x1f8, 1), (0x1fa, 0x232, 2), (0x23a, 0x23b, 1), (0x23d, 0x23e, 1), (0x241, 0x241, 2),
  (0x243, 0x246, 1), (0x248, 0x24e, 2), (0x2b0, 0x2b8, 1), (0x2d8, 0x2dd, 1), (0x2e0, 0x2e4, 1),
  (0x340, 0x341, 1), (0x343, 0x345, 1), (0x370, 0x376, 2), (0x37a, 0x37a, 2), (0x37e, 0x37f, 1),
  (0x384, 0x38a, 1), (0x38c, 0x38c, 2), (0x38e, 0x38f, 1), (0x391, 0x3a1, 1), (0x3a3, 0x3ab, 1),
  (0x3cf, 0x3d6, 1), (0x3d8, 0x3ee, 2), (0x3f0, 0x3f2, 1), (0x3f4, 0x3f5, 1), (0x3f7, 0x3f7, 2),
  (0x3f9, 0x3fa, 1), (0x3fd, 0x42f, 1), (0x460, 0x480, 2), (0x48a, 0x4be, 2), (0x4c0, 0x4c1, 1),
  (0x4c3, 0x4cd, 2), (0x4d0, 0x52e, 2), (0x531, 0x556, 1), (0x587, 0x587, 2), (0x675, 0x678, 1),
  (0x958, 0x95f, 1), (0x9dc, 0x9dd, 1), (0x9df, 0x9df, 2), (0xa33, 0xa33, 2), (0xa36, 0xa36, 2),
  (0xa59, 0xa5b, 1), (0xa5e, 0xa5e, 2), (0xb5c, 0xb5d, 1), (0xe33, 0xe33, 2), (0xeb3, 0xeb3, 2),
  (0xedc, 0xedd, 1), (0xf0c, 0xf0c, 2), (0xf43, 0xf43, 2), (0xf4d, 0xf4d, 2), (0xf52, 0xf52, 2),
  (0xf57, 0xf57, 2), (0xf5c, 0xf5c, 2), (0xf69, 0xf69, 2), (0xf73, 0xf73, 2), (0xf75, 0xf79, 1),
  (0xf81, 0xf81, 2), (0xf93, 0xf93, 2), (0xf9d, 0xf9d, 2), (0xfa2, 0xfa2, 2), (0xfa7, 0xfa7, 2),
  (0xfac, 0xfac, 2), (0xfb9, 0xfb9, 2), (0x10a0, 0x10c5, 1), (0x10c7, 0x10c7, 2),
  (0x10cd, 0x10cd, 2), (0x10fc, 0x10fc, 2), (0x13f8, 0x13fd, 1), (0x1c80, 0x1c89, 1),
  (0x1c90, 0x1cba, 1), (0x1cbd, 0x1cbf, 1), (0x1d2c, 0x1d2e, 1), (0x1d30, 0x1d3a, 1),
  (0x1d3c, 0x1d4d, 1), (0x1d4f, 0x1d6a, 1), (0x1d78, 0x1d78, 2), (0x1d9b, 0x1dbf, 1),
  (0x1e00, 0x1e94, 2), (0x1e9a, 0x1e9b, 1), (0x1e9e, 0x1efe, 2), (0x1f08, 0x1f0f, 1),
  (0x1f18, 0x1f1d, 1), (0x1f28, 0x1f2f, 1), (0x1f38, 0x1f3f, 1), (0x1f48, 0x1f4d, 1),
  (0x1f59, 0x1f5f, 2), (0x1f68, 0x1f6f, 1), (0x1f71, 0x1f7d, 2), (0x1f80, 0x1faf, 1),
  (0x1fb2, 0x1fb4, 1), (0x1fb7, 0x1fc4, 1), (0x1fc7, 0x1fcf, 1), (0x1fd3, 0x1fd3, 2),
  (0x1fd8, 0x1fdb, 1), (0x1fdd, 0x1fdf, 1), (0x1fe3, 0x1fe3, 2), (0x1fe8, 0x1fef, 1),
  (0x1ff2, 0x1ff4, 1), (0x1ff7, 0x1ffe, 1), (0x2000, 0x200a, 1), (0x2011, 0x2011, 2),
  (0x2017, 0x2017, 2), (0x202f, 0x202f, 2), (0x2033, 0x2034, 1), (0x2036, 0x2037, 1),
  (0x203c, 0x203e, 2), (0x2047, 0x2049, 1), (0x2057, 0x2057, 2), (0x205f, 0x205f, 2),
  (0x2070, 0x2071, 1), (0x2074, 0x208e, 1), (0x2090, 0x209c, 1), (0x20a8, 0x20a8, 2),
  (0x2100, 0x2103, 1), (0x2105, 0x2107, 1), (0x2109, 0x2113, 1), (0x2115, 0x2116, 1),
  (0x2119, 0x211d, 1), (0x2120, 0x2122, 1), (0x2124, 0x2128, 2), (0x212a, 0x212d, 1),
  (0x212f, 0x2139, 1), (0x213b, 0x2140, 1), (0x2145, 0x2149, 1), (0x2150, 0x217f, 1),
  (0x2183, 0x2183, 2), (0x2189, 0x2189, 2), (0x222c, 0x222d, 1), (0x222f, 0x2230, 1),
  (0x2329, 0x232a, 1), (0x2460, 0x2487, 1), (0x249c, 0x24ea, 1), (0x2a0c, 0x2a0c, 2),
  (0x2a74, 0x2a76, 1), (0x2adc, 0x2adc, 2), (0x2c00, 0x2c2f, 1), (0x2c60, 0x2c60, 2),
  (0x2c62, 0x2c64, 1), (0x2c67, 0x2c6b, 2), (0x2c6d, 0x2c70, 1), (0x2c72, 0x2c72, 2),
  (0x2c75, 0x2c75, 2), (0x2c7c, 0x2c80, 1), (0x2c82, 0x2ce2, 2), (0x2ceb, 0x2ced, 2),
  (0x2cf2, 0x2cf2, 2), (0x2d6f, 0x2d6f, 2), (0x2e9f, 0x2e9f, 2), (0x2ef3, 0x2ef3, 2),
  (0x2f00, 0x2fd5, 1), (0x3000, 0x3002, 2), (0x3036, 0x3036, 2), (0x3038, 0x303a, 1),
  (0x309b, 0x309c, 1), (0x309f, 0x309f, 2), (0x30ff, 0x30ff, 2), (0x3131, 0x3163, 1),
  (0x3165, 0x318e, 1), (0x3192, 0x319f, 1), (0x3200, 0x321e, 1), (0x3220, 0x3247, 1),
  (0x3250, 0x327e, 1), (0x3280, 0x33c1, 1), (0x33c3, 0x33c6, 1), (0x33c8, 0x33d7, 1),
  (0x33d9, 0x33ff, 1), (0xa640, 0xa66c, 2), (0xa680, 0xa69a, 2), (0xa69c, 0xa69d, 1),
  (0xa722, 0xa72e, 2), (0xa732, 0xa770, 2), (0xa779, 0xa77b, 2), (0xa77d, 0xa77e, 1),
  (0xa780, 0xa786, 2), (0xa78b, 0xa78d, 2), (0xa790, 0xa792, 2), (0xa796, 0xa7a8, 2),
  (0xa7aa, 0xa7ae, 1), (0xa7b0, 0xa7b4, 1), (0xa7b6, 0xa7c2, 2), (0xa7c4, 0xa7c7, 1),
  (0xa7c9, 0xa7c9, 2), (0xa7cb, 0xa7cc, 1), (0xa7ce, 0xa7dc, 2), (0xa7f1, 0xa7f5, 1),
  (0xa7f8, 0xa7f9, 1), (0xab5c, 0xab5f, 1), (0xab69, 0xab69, 2), (0xab70, 0xabbf, 1),
  (0xf900, 0xfa0d, 1), (0xfa10, 0xfa12, 2), (0xfa15, 0xfa1e, 1), (0xfa20, 0xfa22, 2),
  (0xfa25, 0xfa26, 1), (0xfa2a, 0xfa6d, 1), (0xfa70, 0xfad9, 1), (0xfb00, 0xfb06, 1),
  (0xfb13, 0xfb17, 1), (0xfb1d, 0xfb1d, 2), (0xfb1f, 0xfb36, 1), (0xfb38, 0xfb3c, 1),
  (0xfb3e, 0xfb3e, 2), (0xfb40, 0xfb41, 1), (0xfb43, 0xfb44, 1), (0xfb46, 0xfbb1, 1),
  (0xfbd3, 0xfd3d, 1), (0xfd50, 0xfd8f, 1), (0xfd92, 0xfdc7, 1), (0xfdf0, 0xfdfc, 1),
  (0xfe10, 0xfe11, 1), (0xfe13, 0xfe18, 1), (0xfe31, 0xfe44, 1), (0xfe47, 0xfe51, 1),
  (0xfe54, 0xfe66, 1), (0xfe68, 0xfe6b, 1), (0xfe70, 0xfe72, 1), (0xfe74, 0xfe74, 2),
  (0xfe76, 0xfefc, 1), (0xff01, 0xff9f, 1), (0xffa1, 0xffbe, 1), (0xffc2, 0xffc7, 1),
  (0xffca, 0xffcf, 1), (0xffd2, 0xffd7, 1), (0xffda, 0xffdc, 1), (0xffe0, 0xffe6, 1),
  (0xffe8, 0xffee, 1), (0x10400, 0x10427, 1), (0x104b0, 0x104d3, 1), (0x10570, 0x1057a, 1),
  (0x1057c, 0x1058a, 1), (0x1058c, 0x10592, 1), (0x10594, 0x10595, 1), (0x10781, 0x10785, 1),
  (0x10787, 0x107b0, 1), (0x107b2, 0x107ba, 1), (0x10c80, 0x10cb2, 1), (0x10d50, 0x10d65, 1),
  (0x118a0, 0x118bf, 1), (0x16e40, 0x16e5f, 1), (0x16ea0, 0x16eb8, 1), (0x1ccd6, 0x1ccf9, 1),
  (0x1d15e, 0x1d164, 1), (0x1d1bb, 0x1d1c0, 1), (0x1d400, 0x1d454, 1), (0x1d456, 0x1d49c, 1),
  (0x1d49e, 0x1d49f, 1), (0x1d4a2, 0x1d4a2, 2), (0x1d4a5, 0x1d4a6, 1), (0x1d4a9, 0x1d4ac, 1),
  (0x1d4ae, 0x1d4b9, 1), (0x1d4bb, 0x1d4bb, 2), (0x1d4bd, 0x1d4c3, 1), (0x1d4c5, 0x1d505, 1),
  (0x1d507, 0x1d50a, 1), (0x1d50d, 0x1d514, 1), (0x1d516, 0x1d51c, 1), (0x1d51e, 0x1d539, 1),
  (0x1d53b, 0x1d53e, 1), (0x1d540, 0x1d544, 1), (0x1d546, 0x1d546, 2), (0x1d54a, 0x1d550, 1),
  (0x1d552, 0x1d6a5, 1), (0x1d6a8, 0x1d7cb, 1), (0x1d7ce, 0x1d7ff, 1), (0x1e030, 0x1e06d, 1),
  (0x1e900, 0x1e921, 1), (0x1ee00, 0x1ee03, 1), (0x1ee05, 0x1ee1f, 1), (0x1ee21, 0x1ee22, 1),
  (0x1ee24, 0x1ee24, 2), (0x1ee27, 0x1ee27, 2), (0x1ee29, 0x1ee32, 1), (0x1ee34, 0x1ee37, 1),
  (0x1ee39, 0x1ee3b, 2), (0x1ee42, 0x1ee42, 2), (0x1ee47, 0x1ee4b, 2), (0x1ee4d, 0x1ee4f, 1),
  (0x1ee51, 0x1ee52, 1), (0x1ee54, 0x1ee54, 2), (0x1ee57, 0x1ee5f, 2), (0x1ee61, 0x1ee62, 1),
  (0x1ee64, 0x1ee64, 2), (0x1ee67, 0x1ee6a, 1), (0x1ee6c, 0x1ee72, 1), (0x1ee74, 0x1ee77, 1),
  (0x1ee79, 0x1ee7c, 1), (0x1ee7e, 0x1ee7e, 2), (0x1ee80, 0x1ee89, 1), (0x1ee8b, 0x1ee9b, 1),
  (0x1eea1, 0x1eea3, 1), (0x1eea5, 0x1eea9, 1), (0x1eeab, 0x1eebb, 1), (0x1f101, 0x1f10a, 1),
  (0x1f110, 0x1f12e, 1), (0x1f130, 0x1f14f, 1), (0x1f16a, 0x1f16c, 1), (0x1f190, 0x1f190, 2),
  (0x1f200, 0x1f202, 1), (0x1f210, 0x1f23b, 1), (0x1f240, 0x1f248, 1), (0x1f250, 0x1f251, 1),
  (0x1fbf0, 0x1fbf9, 1), (0x2f800, 0x2fa1d, 1)]

/-- Whether a domain is read without a character. -/
def isIgnored (c : Char) : Bool := ignoredRanges.contains c

/-- The character that a character of a domain is read as, if it is one. -/
def foldedChar (c : Char) : Char :=
  match foldedRuns.last c with
  | some (first, last, target) =>
    if c.toNat ≤ last then Char.ofNat (target + (c.toNat - first)) else c.toLower
  | none => c.toLower

/-- Runs of characters that show a number of two digits: the first and the last of the run, and
the number that the first one shows. -/
def numberRuns : Runs :=
  #[(0x2469, 0x2473, 10), (0x3251, 0x325f, 21), (0x32b1, 0x32bf, 36)]

/-- Characters that are read as several ones of different directions, and what is read: one
letter or digit stands for all, as nothing but its direction matters. -/
def compounds : List (Ranges × String) := [
  (#[(0x249c, 0x24b5), (0x3200, 0x321e), (0x3220, 0x3243), (0x1f110, 0x1f12a),
    (0x1f240, 0x1f248)], "(a)"),
  (#[(0x2474, 0x2487)], "(1)"), (#[(0x32c0, 0x32cb), (0x3358, 0x3370), (0x33e0, 0x33fe)], "1a"),
  (#[(0x2103, 0x2103), (0x2109, 0x2109)], "°a"), (#[(0x215f, 0x215f), (0x1f101, 0x1f10a)], "1,")]

/-- What a character of a domain is read as. -/
def foldedChars (c : Char) : List Char :=
  match compounds.find? (·.1.contains c), numberRuns.last c with
  | some (_, text), _ => text.toList
  | none, some (first, last, number) =>
    if c.toNat ≤ last then Nat.toDigits 10 (number + (c.toNat - first)) else [foldedChar c]
  | none, none => [foldedChar c]

/-- A domain as it is read. -/
def folded (domain : List Char) : List Char := (domain.filter (!isIgnored ·)).flatMap foldedChars

/-- Whether a character folds into itself. -/
def isStable (c : Char) : Bool :=
  match unstableRuns.last c with
  | some (first, last, distance) => last < c.toNat || (c.toNat - first) % distance ≠ 0
  | none => c.toLower = c

end SmartAccount.Url
