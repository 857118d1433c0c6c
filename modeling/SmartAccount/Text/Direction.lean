import SmartAccount.Text.Mark
/-!
# The direction of writing

Letters are written from left to right or from right to left. Digits, marks and punctuation have
no direction of their own and go with the letters around them, digits of the two kinds each in
its way. A character that stands for another one has the direction of that one.
-/

namespace SmartAccount.Text

inductive Direction where
  | leftToRight
  | rightToLeft
  | europeanDigit
  | arabicDigit
  | mark
  | neutral
  deriving DecidableEq

def europeanDigitRanges : Ranges := #[
  (0x30, 0x39), (0xbc, 0xbe), (0x6f0, 0x6f9), (0x2150, 0x215f), (0x2189, 0x2189), (0x32c0, 0x32cb),
  (0x3358, 0x3370), (0x33e0, 0x33fe), (0x102e1, 0x102fb), (0x1f101, 0x1f10a)]

def arabicDigitRanges : Ranges := #[
  (0x660, 0x669), (0x66b, 0x66c), (0x10d30, 0x10d49), (0x10e60, 0x10e7e)]

/-- Punctuation and symbols. -/
def neutralRanges : Ranges := #[
  (0x0, 0x2f), (0x3a, 0x60), (0x7b, 0xb4), (0xb6, 0xbb), (0xbf, 0xbf), (0xd7, 0xd7), (0xf7, 0xf7),
  (0x2b9, 0x2ba), (0x2c2, 0x2cf), (0x2d2, 0x2df), (0x2e5, 0x2ed), (0x2ef, 0x2ff), (0x374, 0x375),
  (0x37a, 0x37a), (0x384, 0x385), (0x387, 0x387), (0x3f6, 0x3f6), (0x58a, 0x58f), (0x606, 0x607),
  (0x609, 0x60a), (0x60c, 0x60c), (0x60e, 0x60f), (0x66a, 0x66a), (0x6de, 0x6de), (0x6e9, 0x6e9),
  (0x7f6, 0x7f9), (0x9f2, 0x9f3), (0x9fb, 0x9fb), (0xaf1, 0xaf1), (0xbf3, 0xbfa), (0xc78, 0xc7e),
  (0xe3f, 0xe3f), (0xf3a, 0xf3d), (0x1390, 0x1399), (0x1400, 0x1400), (0x169b, 0x169c),
  (0x17db, 0x17db), (0x17f0, 0x180a), (0x1940, 0x1945), (0x19de, 0x19ff), (0x1fbd, 0x1fbd),
  (0x1fbf, 0x1fc1), (0x1fcd, 0x1fcf), (0x1fdd, 0x1fdf), (0x1fed, 0x1fee), (0x1ffd, 0x208b),
  (0x20a0, 0x20a7), (0x20a9, 0x20c1), (0x2103, 0x2104), (0x2108, 0x2109), (0x2114, 0x2114),
  (0x2117, 0x211f), (0x2123, 0x2125), (0x2127, 0x2129), (0x212e, 0x212e), (0x213a, 0x213a),
  (0x2140, 0x214d), (0x218a, 0x2335), (0x237b, 0x2394), (0x2396, 0x26ab), (0x26ad, 0x27ff),
  (0x2900, 0x2bff), (0x2ce5, 0x2cea), (0x2cf9, 0x2cff), (0x2e00, 0x2e9e), (0x2ea0, 0x2ef2),
  (0x3001, 0x3004), (0x3008, 0x3020), (0x3030, 0x3030), (0x3036, 0x3037), (0x303d, 0x303f),
  (0x309b, 0x309c), (0x30a0, 0x30a0), (0x30fb, 0x30fb), (0x31c0, 0x31e5), (0x3200, 0x3243),
  (0x4dc0, 0x4dff), (0xa490, 0xa4c6), (0xa60d, 0xa60f), (0xa673, 0xa673), (0xa67e, 0xa67f),
  (0xa700, 0xa721), (0xa788, 0xa788), (0xa828, 0xa82b), (0xa838, 0xa839), (0xa874, 0xa877),
  (0xab6a, 0xab6b), (0xfbc3, 0xfbd2), (0xfc5e, 0xfc63), (0xfd3e, 0xfd4f), (0xfd90, 0xfd91),
  (0xfdc8, 0xfdcf), (0xfdfd, 0xfe18), (0xfe31, 0xfe70), (0xfe72, 0xfe72), (0xfe74, 0xfe76),
  (0xfe78, 0xfe78), (0xfe7a, 0xfe7a), (0xfe7c, 0xfe7c), (0xfe7e, 0xfe7e), (0xff5f, 0xff65),
  (0xffe0, 0xffee), (0x10101, 0x10101), (0x10140, 0x1018c), (0x10190, 0x101a0), (0x1091f, 0x1091f),
  (0x10b39, 0x10b3f), (0x10d6e, 0x10d6e), (0x10ed0, 0x10ed8), (0x11052, 0x11065),
  (0x11660, 0x1166c), (0x11fd5, 0x11ff1), (0x16fe2, 0x16fe2), (0x1cc00, 0x1cef0),
  (0x1d1e9, 0x1d241), (0x1d245, 0x1d245), (0x1d300, 0x1d356), (0x1d6c1, 0x1d6c1),
  (0x1d6db, 0x1d6db), (0x1d6fb, 0x1d6fb), (0x1d715, 0x1d715), (0x1d735, 0x1d735),
  (0x1d74f, 0x1d74f), (0x1d76f, 0x1d76f), (0x1d789, 0x1d789), (0x1d7a9, 0x1d7a9),
  (0x1d7c3, 0x1d7c3), (0x1e2ff, 0x1e2ff), (0x1eef0, 0x1f0f5), (0x1f10b, 0x1f12a),
  (0x1f12f, 0x1f12f), (0x1f16d, 0x1f16f), (0x1f1ad, 0x1f1ad), (0x1f240, 0x1f248),
  (0x1f260, 0x1fbfa)]

/-- The blocks of letters that are written from right to left. -/
def rightToLeftRanges : Ranges := #[
  (0x590, 0x8ff), (0x2135, 0x2138), (0xfb1d, 0xfdff), (0xfe70, 0xfeff), (0x10800, 0x10fff),
  (0x1e800, 0x1efff)]

def direction (c : Char) : Direction :=
  if isNonspacing c then .mark
  else if europeanDigitRanges.contains c then .europeanDigit
  else if arabicDigitRanges.contains c then .arabicDigit
  else if neutralRanges.contains c then .neutral
  else if rightToLeftRanges.contains c then .rightToLeft
  else .leftToRight

end SmartAccount.Text
