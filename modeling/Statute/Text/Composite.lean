/-!
# Characters with accents

A character with an accent can be written as one character or as a base character and a mark. This
module relates the two ways for the characters that stand in domain names, which have no capitals
and no variants for compatibility, and for the syllables of Hangul, which are composed of two or
three letters by a rule.
-/

namespace Statute.Text

/-- For every second part, the first parts with which it can be composed, and what results. -/
def compositeTable : List (Nat × List (Nat × Nat)) :=
  [(0x300,
    [(0x61, 0xe0), (0x65, 0xe8), (0x69, 0xec), (0x6f, 0xf2), (0x75, 0xf9), (0xfc, 0x1dc),
     (0x6e, 0x1f9), (0x435, 0x450), (0x438, 0x45d), (0x113, 0x1e15), (0x14d, 0x1e51),
     (0x77, 0x1e81), (0xe2, 0x1ea7), (0x103, 0x1eb1), (0xea, 0x1ec1), (0xf4, 0x1ed3),
     (0x1a1, 0x1edd), (0x1b0, 0x1eeb), (0x79, 0x1ef3), (0x1f00, 0x1f02), (0x1f01, 0x1f03),
     (0x1f10, 0x1f12), (0x1f11, 0x1f13), (0x1f20, 0x1f22), (0x1f21, 0x1f23), (0x1f30, 0x1f32),
     (0x1f31, 0x1f33), (0x1f40, 0x1f42), (0x1f41, 0x1f43), (0x1f50, 0x1f52), (0x1f51, 0x1f53),
     (0x1f60, 0x1f62), (0x1f61, 0x1f63), (0x3b1, 0x1f70), (0x3b5, 0x1f72), (0x3b7, 0x1f74),
     (0x3b9, 0x1f76), (0x3bf, 0x1f78), (0x3c5, 0x1f7a), (0x3c9, 0x1f7c), (0x3ca, 0x1fd2),
     (0x3cb, 0x1fe2)]),
   (0x301,
    [(0x61, 0xe1), (0x65, 0xe9), (0x69, 0xed), (0x6f, 0xf3), (0x75, 0xfa), (0x79, 0xfd),
     (0x63, 0x107), (0x6c, 0x13a), (0x6e, 0x144), (0x72, 0x155), (0x73, 0x15b), (0x7a, 0x17a),
     (0xfc, 0x1d8), (0x67, 0x1f5), (0xe5, 0x1fb), (0xe6, 0x1fd), (0xf8, 0x1ff), (0x3ca, 0x390),
     (0x3b1, 0x3ac), (0x3b5, 0x3ad), (0x3b7, 0x3ae), (0x3b9, 0x3af), (0x3cb, 0x3b0), (0x3bf, 0x3cc),
     (0x3c5, 0x3cd), (0x3c9, 0x3ce), (0x433, 0x453), (0x43a, 0x45c), (0xe7, 0x1e09),
     (0x113, 0x1e17), (0xef, 0x1e2f), (0x6b, 0x1e31), (0x6d, 0x1e3f), (0xf5, 0x1e4d),
     (0x14d, 0x1e53), (0x70, 0x1e55), (0x169, 0x1e79), (0x77, 0x1e83), (0xe2, 0x1ea5),
     (0x103, 0x1eaf), (0xea, 0x1ebf), (0xf4, 0x1ed1), (0x1a1, 0x1edb), (0x1b0, 0x1ee9),
     (0x1f00, 0x1f04), (0x1f01, 0x1f05), (0x1f10, 0x1f14), (0x1f11, 0x1f15), (0x1f20, 0x1f24),
     (0x1f21, 0x1f25), (0x1f30, 0x1f34), (0x1f31, 0x1f35), (0x1f40, 0x1f44), (0x1f41, 0x1f45),
     (0x1f50, 0x1f54), (0x1f51, 0x1f55), (0x1f60, 0x1f64), (0x1f61, 0x1f65)]),
   (0x302,
    [(0x61, 0xe2), (0x65, 0xea), (0x69, 0xee), (0x6f, 0xf4), (0x75, 0xfb), (0x63, 0x109),
     (0x67, 0x11d), (0x68, 0x125), (0x6a, 0x135), (0x73, 0x15d), (0x77, 0x175), (0x79, 0x177),
     (0x7a, 0x1e91), (0x1ea1, 0x1ead), (0x1eb9, 0x1ec7), (0x1ecd, 0x1ed9)]),
   (0x303,
    [(0x61, 0xe3), (0x6e, 0xf1), (0x6f, 0xf5), (0x69, 0x129), (0x75, 0x169), (0x76, 0x1e7d),
     (0xe2, 0x1eab), (0x103, 0x1eb5), (0x65, 0x1ebd), (0xea, 0x1ec5), (0xf4, 0x1ed7),
     (0x1a1, 0x1ee1), (0x1b0, 0x1eef), (0x79, 0x1ef9)]),
   (0x304,
    [(0x61, 0x101), (0x65, 0x113), (0x69, 0x12b), (0x6f, 0x14d), (0x75, 0x16b), (0xfc, 0x1d6),
     (0xe4, 0x1df), (0x227, 0x1e1), (0xe6, 0x1e3), (0x1eb, 0x1ed), (0xf6, 0x22b), (0xf5, 0x22d),
     (0x22f, 0x231), (0x79, 0x233), (0x438, 0x4e3), (0x443, 0x4ef), (0x67, 0x1e21),
     (0x1e37, 0x1e39), (0x1e5b, 0x1e5d), (0x3b1, 0x1fb1), (0x3b9, 0x1fd1), (0x3c5, 0x1fe1)]),
   (0x306,
    [(0x61, 0x103), (0x65, 0x115), (0x67, 0x11f), (0x69, 0x12d), (0x6f, 0x14f), (0x75, 0x16d),
     (0x438, 0x439), (0x443, 0x45e), (0x436, 0x4c2), (0x430, 0x4d1), (0x435, 0x4d7),
     (0x229, 0x1e1d), (0x1ea1, 0x1eb7), (0x3b1, 0x1fb0), (0x3b9, 0x1fd0), (0x3c5, 0x1fe0)]),
   (0x307,
    [(0x63, 0x10b), (0x65, 0x117), (0x67, 0x121), (0x7a, 0x17c), (0x61, 0x227), (0x6f, 0x22f),
     (0x62, 0x1e03), (0x64, 0x1e0b), (0x66, 0x1e1f), (0x68, 0x1e23), (0x6d, 0x1e41), (0x6e, 0x1e45),
     (0x70, 0x1e57), (0x72, 0x1e59), (0x73, 0x1e61), (0x15b, 0x1e65), (0x161, 0x1e67),
     (0x1e63, 0x1e69), (0x74, 0x1e6b), (0x77, 0x1e87), (0x78, 0x1e8b), (0x79, 0x1e8f),
     (0x105d2, 0x105c9), (0x105da, 0x105e4)]),
   (0x308,
    [(0x61, 0xe4), (0x65, 0xeb), (0x69, 0xef), (0x6f, 0xf6), (0x75, 0xfc), (0x79, 0xff),
     (0x3b9, 0x3ca), (0x3c5, 0x3cb), (0x435, 0x451), (0x456, 0x457), (0x430, 0x4d3), (0x4d9, 0x4db),
     (0x436, 0x4dd), (0x437, 0x4df), (0x438, 0x4e5), (0x43e, 0x4e7), (0x4e9, 0x4eb), (0x44d, 0x4ed),
     (0x443, 0x4f1), (0x447, 0x4f5), (0x44b, 0x4f9), (0x68, 0x1e27), (0xf5, 0x1e4f),
     (0x16b, 0x1e7b), (0x77, 0x1e85), (0x78, 0x1e8d), (0x74, 0x1e97)]),
   (0x309,
    [(0x61, 0x1ea3), (0xe2, 0x1ea9), (0x103, 0x1eb3), (0x65, 0x1ebb), (0xea, 0x1ec3),
     (0x69, 0x1ec9), (0x6f, 0x1ecf), (0xf4, 0x1ed5), (0x1a1, 0x1edf), (0x75, 0x1ee7),
     (0x1b0, 0x1eed), (0x79, 0x1ef7)]),
   (0x30a, [(0x61, 0xe5), (0x75, 0x16f), (0x77, 0x1e98), (0x79, 0x1e99)]),
   (0x30b, [(0x6f, 0x151), (0x75, 0x171), (0x443, 0x4f3)]),
   (0x30c,
    [(0x63, 0x10d), (0x64, 0x10f), (0x65, 0x11b), (0x6c, 0x13e), (0x6e, 0x148), (0x72, 0x159),
     (0x73, 0x161), (0x74, 0x165), (0x7a, 0x17e), (0x61, 0x1ce), (0x69, 0x1d0), (0x6f, 0x1d2),
     (0x75, 0x1d4), (0xfc, 0x1da), (0x67, 0x1e7), (0x6b, 0x1e9), (0x292, 0x1ef), (0x6a, 0x1f0),
     (0x68, 0x21f)]),
   (0x30f,
    [(0x61, 0x201), (0x65, 0x205), (0x69, 0x209), (0x6f, 0x20d), (0x72, 0x211), (0x75, 0x215),
     (0x475, 0x477)]),
   (0x311,
    [(0x61, 0x203), (0x65, 0x207), (0x69, 0x20b), (0x6f, 0x20f), (0x72, 0x213), (0x75, 0x217)]),
   (0x313,
    [(0x3b1, 0x1f00), (0x3b5, 0x1f10), (0x3b7, 0x1f20), (0x3b9, 0x1f30), (0x3bf, 0x1f40),
     (0x3c5, 0x1f50), (0x3c9, 0x1f60), (0x3c1, 0x1fe4)]),
   (0x314,
    [(0x3b1, 0x1f01), (0x3b5, 0x1f11), (0x3b7, 0x1f21), (0x3b9, 0x1f31), (0x3bf, 0x1f41),
     (0x3c5, 0x1f51), (0x3c9, 0x1f61), (0x3c1, 0x1fe5)]),
   (0x31b, [(0x6f, 0x1a1), (0x75, 0x1b0)]),
   (0x323,
    [(0x62, 0x1e05), (0x64, 0x1e0d), (0x68, 0x1e25), (0x6b, 0x1e33), (0x6c, 0x1e37), (0x6d, 0x1e43),
     (0x6e, 0x1e47), (0x72, 0x1e5b), (0x73, 0x1e63), (0x74, 0x1e6d), (0x76, 0x1e7f), (0x77, 0x1e89),
     (0x7a, 0x1e93), (0x61, 0x1ea1), (0x65, 0x1eb9), (0x69, 0x1ecb), (0x6f, 0x1ecd),
     (0x1a1, 0x1ee3), (0x75, 0x1ee5), (0x1b0, 0x1ef1), (0x79, 0x1ef5)]),
   (0x324, [(0x75, 0x1e73)]),
   (0x325, [(0x61, 0x1e01)]),
   (0x326, [(0x73, 0x219), (0x74, 0x21b)]),
   (0x327,
    [(0x63, 0xe7), (0x67, 0x123), (0x6b, 0x137), (0x6c, 0x13c), (0x6e, 0x146), (0x72, 0x157),
     (0x73, 0x15f), (0x74, 0x163), (0x65, 0x229), (0x64, 0x1e11), (0x68, 0x1e29)]),
   (0x328, [(0x61, 0x105), (0x65, 0x119), (0x69, 0x12f), (0x75, 0x173), (0x6f, 0x1eb)]),
   (0x32d,
    [(0x64, 0x1e13), (0x65, 0x1e19), (0x6c, 0x1e3d), (0x6e, 0x1e4b), (0x74, 0x1e71),
     (0x75, 0x1e77)]),
   (0x32e, [(0x68, 0x1e2b)]),
   (0x330, [(0x65, 0x1e1b), (0x69, 0x1e2d), (0x75, 0x1e75)]),
   (0x331,
    [(0x62, 0x1e07), (0x64, 0x1e0f), (0x6b, 0x1e35), (0x6c, 0x1e3b), (0x6e, 0x1e49), (0x72, 0x1e5f),
     (0x74, 0x1e6f), (0x7a, 0x1e95), (0x68, 0x1e96)]),
   (0x338,
    [(0x2190, 0x219a), (0x2192, 0x219b), (0x2194, 0x21ae), (0x21d0, 0x21cd), (0x21d4, 0x21ce),
     (0x21d2, 0x21cf), (0x2203, 0x2204), (0x2208, 0x2209), (0x220b, 0x220c), (0x2223, 0x2224),
     (0x2225, 0x2226), (0x223c, 0x2241), (0x2243, 0x2244), (0x2245, 0x2247), (0x2248, 0x2249),
     (0x3d, 0x2260), (0x2261, 0x2262), (0x224d, 0x226d), (0x3c, 0x226e), (0x3e, 0x226f),
     (0x2264, 0x2270), (0x2265, 0x2271), (0x2272, 0x2274), (0x2273, 0x2275), (0x2276, 0x2278),
     (0x2277, 0x2279), (0x227a, 0x2280), (0x227b, 0x2281), (0x2282, 0x2284), (0x2283, 0x2285),
     (0x2286, 0x2288), (0x2287, 0x2289), (0x22a2, 0x22ac), (0x22a8, 0x22ad), (0x22a9, 0x22ae),
     (0x22ab, 0x22af), (0x227c, 0x22e0), (0x227d, 0x22e1), (0x2291, 0x22e2), (0x2292, 0x22e3),
     (0x22b2, 0x22ea), (0x22b3, 0x22eb), (0x22b4, 0x22ec), (0x22b5, 0x22ed)]),
   (0x342,
    [(0x1f00, 0x1f06), (0x1f01, 0x1f07), (0x1f20, 0x1f26), (0x1f21, 0x1f27), (0x1f30, 0x1f36),
     (0x1f31, 0x1f37), (0x1f50, 0x1f56), (0x1f51, 0x1f57), (0x1f60, 0x1f66), (0x1f61, 0x1f67),
     (0x3b1, 0x1fb6), (0x3b7, 0x1fc6), (0x3b9, 0x1fd6), (0x3ca, 0x1fd7), (0x3c5, 0x1fe6),
     (0x3cb, 0x1fe7), (0x3c9, 0x1ff6)]),
   (0x653, [(0x627, 0x622)]),
   (0x654,
    [(0x627, 0x623), (0x648, 0x624), (0x64a, 0x626), (0x6d5, 0x6c0), (0x6c1, 0x6c2),
     (0x6d2, 0x6d3)]),
   (0x655, [(0x627, 0x625)]),
   (0x93c, [(0x928, 0x929), (0x930, 0x931), (0x933, 0x934)]),
   (0x9be, [(0x9c7, 0x9cb)]),
   (0x9d7, [(0x9c7, 0x9cc)]),
   (0xb3e, [(0xb47, 0xb4b)]),
   (0xb56, [(0xb47, 0xb48)]),
   (0xb57, [(0xb47, 0xb4c)]),
   (0xbbe, [(0xbc6, 0xbca), (0xbc7, 0xbcb)]),
   (0xbd7, [(0xb92, 0xb94), (0xbc6, 0xbcc)]),
   (0xc56, [(0xc46, 0xc48)]),
   (0xcc2, [(0xcc6, 0xcca)]),
   (0xcd5, [(0xcbf, 0xcc0), (0xcc6, 0xcc7), (0xcca, 0xccb)]),
   (0xcd6, [(0xcc6, 0xcc8)]),
   (0xd3e, [(0xd46, 0xd4a), (0xd47, 0xd4b)]),
   (0xd57, [(0xd46, 0xd4c)]),
   (0xdca, [(0xdd9, 0xdda), (0xddc, 0xddd)]),
   (0xdcf, [(0xdd9, 0xddc)]),
   (0xddf, [(0xdd9, 0xdde)]),
   (0x102e, [(0x1025, 0x1026)]),
   (0x1b35,
    [(0x1b05, 0x1b06), (0x1b07, 0x1b08), (0x1b09, 0x1b0a), (0x1b0b, 0x1b0c), (0x1b0d, 0x1b0e),
     (0x1b11, 0x1b12), (0x1b3a, 0x1b3b), (0x1b3c, 0x1b3d), (0x1b3e, 0x1b40), (0x1b3f, 0x1b41),
     (0x1b42, 0x1b43)]),
   (0x3099,
    [(0x304b, 0x304c), (0x304d, 0x304e), (0x304f, 0x3050), (0x3051, 0x3052), (0x3053, 0x3054),
     (0x3055, 0x3056), (0x3057, 0x3058), (0x3059, 0x305a), (0x305b, 0x305c), (0x305d, 0x305e),
     (0x305f, 0x3060), (0x3061, 0x3062), (0x3064, 0x3065), (0x3066, 0x3067), (0x3068, 0x3069),
     (0x306f, 0x3070), (0x3072, 0x3073), (0x3075, 0x3076), (0x3078, 0x3079), (0x307b, 0x307c),
     (0x3046, 0x3094), (0x309d, 0x309e), (0x30ab, 0x30ac), (0x30ad, 0x30ae), (0x30af, 0x30b0),
     (0x30b1, 0x30b2), (0x30b3, 0x30b4), (0x30b5, 0x30b6), (0x30b7, 0x30b8), (0x30b9, 0x30ba),
     (0x30bb, 0x30bc), (0x30bd, 0x30be), (0x30bf, 0x30c0), (0x30c1, 0x30c2), (0x30c4, 0x30c5),
     (0x30c6, 0x30c7), (0x30c8, 0x30c9), (0x30cf, 0x30d0), (0x30d2, 0x30d3), (0x30d5, 0x30d6),
     (0x30d8, 0x30d9), (0x30db, 0x30dc), (0x30a6, 0x30f4), (0x30ef, 0x30f7), (0x30f0, 0x30f8),
     (0x30f1, 0x30f9), (0x30f2, 0x30fa), (0x30fd, 0x30fe)]),
   (0x309a,
    [(0x306f, 0x3071), (0x3072, 0x3074), (0x3075, 0x3077), (0x3078, 0x307a), (0x307b, 0x307d),
     (0x30cf, 0x30d1), (0x30d2, 0x30d4), (0x30d5, 0x30d7), (0x30d8, 0x30da), (0x30db, 0x30dd)]),
   (0x110ba, [(0x11099, 0x1109a), (0x1109b, 0x1109c), (0x110a5, 0x110ab)]),
   (0x11127, [(0x11131, 0x1112e), (0x11132, 0x1112f)]),
   (0x1133e, [(0x11347, 0x1134b)]),
   (0x11357, [(0x11347, 0x1134c)]),
   (0x113b8, [(0x113c2, 0x113c7)]),
   (0x113bb, [(0x11384, 0x11385)]),
   (0x113c2, [(0x1138b, 0x1138e), (0x113c2, 0x113c5)]),
   (0x113c9, [(0x11382, 0x11383), (0x11390, 0x11391), (0x113c2, 0x113c8)]),
   (0x114b0, [(0x114b9, 0x114bc)]),
   (0x114ba, [(0x114b9, 0x114bb)]),
   (0x114bd, [(0x114b9, 0x114be)]),
   (0x115af, [(0x115b8, 0x115ba), (0x115b9, 0x115bb)]),
   (0x11930, [(0x11935, 0x11938)]),
   (0x1611e, [(0x1611e, 0x16121)]),
   (0x1611f, [(0x1611e, 0x16123), (0x16129, 0x16124), (0x16121, 0x16126), (0x16122, 0x16127)]),
   (0x16120, [(0x1611e, 0x16125), (0x16121, 0x16128)]),
   (0x16129, [(0x1611e, 0x16122)]),
   (0x16d67, [(0x16d67, 0x16d68), (0x16d63, 0x16d69), (0x16d69, 0x16d6a)])]

/-! ## Hangul -/

namespace Hangul

/-- The first syllable. -/
def firstSyllable : Nat := 0xac00

/-- The first consonant that begins a syllable. -/
def firstLead : Nat := 0x1100

/-- The first vowel. -/
def firstVowel : Nat := 0x1161

/-- The place before the first consonant that ends a syllable, which stands for none. -/
def firstTail : Nat := 0x11a7

/-- How many consonants begin a syllable. -/
def leads : Nat := 19

/-- How many vowels there are. -/
def vowels : Nat := 21

/-- How many ways there are to end a syllable, one of them without a consonant. -/
def tails : Nat := 28

/-- A syllable, with a letter at its end or without. -/
def isSyllable (code : Nat) : Bool :=
  firstSyllable ≤ code && code < firstSyllable + leads * vowels * tails

/-- The letters of a syllable. -/
def letters (code : Nat) : List Nat :=
  let place := code - firstSyllable
  let lead := firstLead + place / (vowels * tails)
  let vowel := firstVowel + place % (vowels * tails) / tails
  let tail := place % tails
  if tail = 0 then [lead, vowel] else [lead, vowel, firstTail + tail]

/-- The syllable of two letters, or of a syllable without an end and a letter. -/
def compose? (first second : Nat) : Option Nat :=
  if firstLead ≤ first ∧ first < firstLead + leads ∧
      firstVowel ≤ second ∧ second < firstVowel + vowels then
    some (firstSyllable + ((first - firstLead) * vowels + (second - firstVowel)) * tails)
  else if isSyllable first ∧ (first - firstSyllable) % tails = 0 ∧
      firstTail < second ∧ second < firstTail + tails then
    some (first + (second - firstTail))
  else none

end Hangul

/-! ## Composition and decomposition -/

/-- The character that two characters are composed to. -/
def compose? (first second : Char) : Option Char :=
  match Hangul.compose? first.toNat second.toNat with
  | some code => some (Char.ofNat code)
  | none => do
    let composites ← compositeTable.lookup second.toNat
    return Char.ofNat (← composites.lookup first.toNat)

/-- The two parts of a character with an accent. -/
def parts? (character : Char) : Option (Char × Char) :=
  compositeTable.findSome? fun (second, composites) =>
    (composites.find? fun (_, code) => code = character.toNat).map fun (first, _) =>
      (Char.ofNat first, Char.ofNat second)

/-- How many accents a character can have. -/
def maximumAccents : Nat := 2

/-- A character without its accents, of which at most so many are taken away, and these after it. -/
def decomposed : (accents : Nat) → Char → List Char
  | 0, character => [character]
  | accents + 1, character =>
    if Hangul.isSyllable character.toNat then (Hangul.letters character.toNat).map Char.ofNat
    else
      match parts? character with
      | some (first, second) => decomposed accents first ++ [second]
      | none => [character]

end Statute.Text
