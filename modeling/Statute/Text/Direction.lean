import Statute.Text.Mark

/-!
# Directions of writing

The bidirectional class of a character says how it is placed where text that runs from right to left
meets text that runs from left to right. Only the characters that stand in domain names are told
apart.
-/

namespace Statute.Text

/-- The bidirectional classes of characters that stand in domain names. -/
inductive Direction where
  | leftToRight
  | rightToLeft
  | arabicLetter
  | arabicNumber
  | europeanNumber
  | europeanSeparator
  | commonSeparator
  | europeanTerminator
  | otherNeutral
  | boundaryNeutral
  | nonspacingMark
deriving DecidableEq, Repr

/-- Ranges of code points with their direction, where it is not that of marks for marks and from
left to right for all else. -/
def directionRanges : List (Nat × Nat × Direction) :=
  [(0x21, 0x22, .otherNeutral), (0x23, 0x25, .europeanTerminator), (0x26, 0x2a, .otherNeutral),
   (0x2b, 0x2b, .europeanSeparator), (0x2c, 0x2c, .commonSeparator),
   (0x2d, 0x2d, .europeanSeparator), (0x2e, 0x2f, .commonSeparator), (0x30, 0x39, .europeanNumber),
   (0x3a, 0x3a, .commonSeparator), (0x3b, 0x60, .otherNeutral), (0x7b, 0xa1, .otherNeutral),
   (0xa2, 0xa5, .europeanTerminator), (0xa6, 0xae, .otherNeutral),
   (0xb0, 0xb1, .europeanTerminator), (0xb6, 0xd7, .otherNeutral), (0xf7, 0xf7, .otherNeutral),
   (0x2b9, 0x2ba, .otherNeutral), (0x2c2, 0x2cf, .otherNeutral), (0x2d2, 0x2ed, .otherNeutral),
   (0x2ef, 0x2ff, .otherNeutral), (0x375, 0x375, .otherNeutral), (0x3f6, 0x3f6, .otherNeutral),
   (0x58a, 0x58e, .otherNeutral), (0x58f, 0x58f, .europeanTerminator), (0x5be, 0x5be, .rightToLeft),
   (0x5c0, 0x5c0, .rightToLeft), (0x5c3, 0x5c3, .rightToLeft), (0x5c6, 0x5c6, .rightToLeft),
   (0x5d0, 0x5f4, .rightToLeft), (0x606, 0x607, .otherNeutral), (0x608, 0x608, .arabicLetter),
   (0x609, 0x60a, .europeanTerminator), (0x60b, 0x60b, .arabicLetter),
   (0x60c, 0x60c, .commonSeparator), (0x60d, 0x60d, .arabicLetter), (0x60e, 0x60f, .otherNeutral),
   (0x61b, 0x64a, .arabicLetter), (0x660, 0x669, .arabicNumber),
   (0x66a, 0x66a, .europeanTerminator), (0x66b, 0x66c, .arabicNumber),
   (0x66d, 0x66f, .arabicLetter), (0x671, 0x6d5, .arabicLetter), (0x6de, 0x6de, .otherNeutral),
   (0x6e5, 0x6e6, .arabicLetter), (0x6e9, 0x6e9, .otherNeutral), (0x6ee, 0x6ef, .arabicLetter),
   (0x6f0, 0x6f9, .europeanNumber), (0x6fa, 0x710, .arabicLetter), (0x712, 0x72f, .arabicLetter),
   (0x74d, 0x7a5, .arabicLetter), (0x7b1, 0x7b1, .arabicLetter), (0x7c0, 0x7ea, .rightToLeft),
   (0x7f4, 0x7f5, .rightToLeft), (0x7f6, 0x7f9, .otherNeutral), (0x7fa, 0x7fa, .rightToLeft),
   (0x7fe, 0x815, .rightToLeft), (0x81a, 0x81a, .rightToLeft), (0x824, 0x824, .rightToLeft),
   (0x828, 0x828, .rightToLeft), (0x830, 0x858, .rightToLeft), (0x85e, 0x85e, .rightToLeft),
   (0x860, 0x88f, .arabicLetter), (0x8a0, 0x8c9, .arabicLetter),
   (0x9f2, 0x9f3, .europeanTerminator), (0x9fb, 0x9fb, .europeanTerminator),
   (0xaf1, 0xaf1, .europeanTerminator), (0xbf3, 0xbf8, .otherNeutral),
   (0xbf9, 0xbf9, .europeanTerminator), (0xbfa, 0xbfa, .otherNeutral),
   (0xc78, 0xc7e, .otherNeutral), (0xcbf, 0xcbf, .leftToRight), (0xcc6, 0xcc6, .leftToRight),
   (0xe3f, 0xe3f, .europeanTerminator), (0xf3a, 0xf3d, .otherNeutral),
   (0x1390, 0x1399, .otherNeutral), (0x1400, 0x1400, .otherNeutral),
   (0x169b, 0x169c, .otherNeutral), (0x17db, 0x17db, .europeanTerminator),
   (0x17f0, 0x180a, .otherNeutral), (0x1940, 0x1945, .otherNeutral),
   (0x19de, 0x19ff, .otherNeutral), (0x200c, 0x200d, .boundaryNeutral),
   (0x2010, 0x2027, .otherNeutral), (0x2030, 0x2032, .europeanTerminator),
   (0x2035, 0x2043, .otherNeutral), (0x2044, 0x2044, .commonSeparator),
   (0x2045, 0x205e, .otherNeutral), (0x20a0, 0x20c1, .europeanTerminator),
   (0x2104, 0x2129, .otherNeutral), (0x212e, 0x212e, .europeanTerminator),
   (0x213a, 0x214d, .otherNeutral), (0x218a, 0x2211, .otherNeutral),
   (0x2212, 0x2212, .europeanSeparator), (0x2213, 0x2213, .europeanTerminator),
   (0x2214, 0x2335, .otherNeutral), (0x237b, 0x2394, .otherNeutral),
   (0x2396, 0x26ab, .otherNeutral), (0x26ad, 0x27ff, .otherNeutral),
   (0x2900, 0x2bff, .otherNeutral), (0x2ce5, 0x2cea, .otherNeutral),
   (0x2cf9, 0x2cff, .otherNeutral), (0x2e00, 0x3004, .otherNeutral),
   (0x3008, 0x3020, .otherNeutral), (0x3030, 0x3030, .otherNeutral),
   (0x3037, 0x3037, .otherNeutral), (0x303d, 0x303f, .otherNeutral),
   (0x30a0, 0x30a0, .otherNeutral), (0x30fb, 0x30fb, .otherNeutral),
   (0x31c0, 0x31e5, .otherNeutral), (0x4dc0, 0x4dff, .otherNeutral),
   (0xa490, 0xa4c6, .otherNeutral), (0xa60d, 0xa60f, .otherNeutral),
   (0xa673, 0xa673, .otherNeutral), (0xa67e, 0xa67f, .otherNeutral),
   (0xa700, 0xa721, .otherNeutral), (0xa788, 0xa788, .otherNeutral),
   (0xa828, 0xa82b, .otherNeutral), (0xa838, 0xa839, .europeanTerminator),
   (0xa874, 0xa877, .otherNeutral), (0xab6a, 0xab6b, .otherNeutral),
   (0xfbb2, 0xfbc2, .arabicLetter), (0xfbc3, 0xfdff, .otherNeutral),
   (0xfe45, 0xfe46, .otherNeutral), (0xfe73, 0xfe73, .arabicLetter),
   (0x10101, 0x10101, .otherNeutral), (0x10140, 0x1018c, .otherNeutral),
   (0x10190, 0x101a0, .otherNeutral), (0x102e1, 0x102fb, .europeanNumber),
   (0x10800, 0x1091b, .rightToLeft), (0x1091f, 0x1091f, .otherNeutral),
   (0x10920, 0x10a00, .rightToLeft), (0x10a10, 0x10a35, .rightToLeft),
   (0x10a40, 0x10ae4, .rightToLeft), (0x10aeb, 0x10b35, .rightToLeft),
   (0x10b39, 0x10b3f, .otherNeutral), (0x10b40, 0x10cff, .rightToLeft),
   (0x10d00, 0x10d23, .arabicLetter), (0x10d30, 0x10d39, .arabicNumber),
   (0x10d40, 0x10d49, .europeanNumber), (0x10d4a, 0x10d4f, .rightToLeft),
   (0x10d6e, 0x10d6e, .otherNeutral), (0x10d6f, 0x10d8f, .rightToLeft),
   (0x10e60, 0x10e7e, .arabicNumber), (0x10e80, 0x10ea9, .rightToLeft),
   (0x10ead, 0x10eb1, .rightToLeft), (0x10ec2, 0x10ec7, .arabicLetter),
   (0x10ed0, 0x10ed8, .otherNeutral), (0x10f00, 0x10f27, .rightToLeft),
   (0x10f30, 0x10f45, .arabicLetter), (0x10f51, 0x10f59, .arabicLetter),
   (0x10f70, 0x10f81, .rightToLeft), (0x10f86, 0x10ff6, .rightToLeft),
   (0x11052, 0x11065, .otherNeutral), (0x11660, 0x1166c, .otherNeutral),
   (0x1171e, 0x1171e, .nonspacingMark), (0x11a07, 0x11a07, .leftToRight),
   (0x11a08, 0x11a08, .leftToRight), (0x11c3f, 0x11c3f, .leftToRight),
   (0x11fd5, 0x11fdc, .otherNeutral), (0x11fdd, 0x11fe0, .europeanTerminator),
   (0x11fe1, 0x11ff1, .otherNeutral), (0x16fe2, 0x16fe2, .otherNeutral),
   (0x1cc00, 0x1cef0, .otherNeutral), (0x1d1e9, 0x1d241, .otherNeutral),
   (0x1d245, 0x1d245, .otherNeutral), (0x1d300, 0x1d356, .otherNeutral),
   (0x1e2ff, 0x1e2ff, .europeanTerminator), (0x1e800, 0x1e8cf, .rightToLeft),
   (0x1e922, 0x1e943, .rightToLeft), (0x1e94b, 0x1e95f, .rightToLeft),
   (0x1ec71, 0x1ed3d, .arabicLetter), (0x1eef0, 0x1f12f, .otherNeutral),
   (0x1f16d, 0x1f16f, .otherNeutral), (0x1f1ad, 0x1f1ad, .otherNeutral),
   (0x1f260, 0x1fbfa, .otherNeutral)]

/-- The direction of a character. -/
def direction (character : Char) : Direction :=
  match valueInCodeRanges? character.toNat directionRanges with
  | some direction => direction
  | none => if isNonspacingMark character then .nonspacingMark else .leftToRight

end Statute.Text
