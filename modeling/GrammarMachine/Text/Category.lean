import GrammarMachine.Text.Letter

/-!
General categories of characters.
-/

namespace GrammarMachine.Text

/-- A number of characters that stand `step` apart. -/
structure CharRun where
  first : Nat
  count : Nat
  step : Nat

/-- The characters of a run. -/
def CharRun.members (r : CharRun) : List (Nat × Nat) :=
  (List.range r.count).map fun i => (r.first + i * r.step, r.first + i * r.step)

/-- The characters of several runs. -/
def Ranges.ofRuns (runs : List CharRun) : Ranges :=
  .ofList (runs.flatMap CharRun.members)

def uppercaseRuns : List CharRun :=
  [⟨0x41, 26, 1⟩, ⟨0xc0, 23, 1⟩, ⟨0xd8, 7, 1⟩, ⟨0x100, 28, 2⟩, ⟨0x139, 8, 2⟩, ⟨0x14a, 24, 2⟩,
   ⟨0x179, 3, 2⟩, ⟨0x181, 2, 1⟩, ⟨0x184, 2, 2⟩, ⟨0x187, 2, 2⟩, ⟨0x18a, 2, 1⟩, ⟨0x18e, 4, 1⟩,
   ⟨0x193, 2, 1⟩, ⟨0x196, 3, 1⟩, ⟨0x19c, 2, 1⟩, ⟨0x19f, 2, 1⟩, ⟨0x1a2, 3, 2⟩, ⟨0x1a7, 2, 2⟩,
   ⟨0x1ac, 2, 2⟩, ⟨0x1af, 2, 2⟩, ⟨0x1b2, 2, 1⟩, ⟨0x1b5, 2, 2⟩, ⟨0x1b8, 1, 1⟩, ⟨0x1bc, 1, 1⟩,
   ⟨0x1c4, 1, 1⟩, ⟨0x1c7, 1, 1⟩, ⟨0x1ca, 1, 1⟩, ⟨0x1cd, 8, 2⟩, ⟨0x1de, 9, 2⟩, ⟨0x1f1, 1, 1⟩,
   ⟨0x1f4, 2, 2⟩, ⟨0x1f7, 2, 1⟩, ⟨0x1fa, 29, 2⟩, ⟨0x23a, 2, 1⟩, ⟨0x23d, 2, 1⟩, ⟨0x241, 2, 2⟩,
   ⟨0x244, 3, 1⟩, ⟨0x248, 4, 2⟩, ⟨0x370, 2, 2⟩, ⟨0x376, 1, 1⟩, ⟨0x37f, 1, 1⟩, ⟨0x386, 2, 2⟩,
   ⟨0x389, 2, 1⟩, ⟨0x38c, 2, 2⟩, ⟨0x38f, 2, 2⟩, ⟨0x392, 16, 1⟩, ⟨0x3a3, 9, 1⟩, ⟨0x3cf, 1, 1⟩,
   ⟨0x3d2, 3, 1⟩, ⟨0x3d8, 12, 2⟩, ⟨0x3f4, 1, 1⟩, ⟨0x3f7, 2, 2⟩, ⟨0x3fa, 1, 1⟩, ⟨0x3fd, 51, 1⟩,
   ⟨0x460, 17, 2⟩, ⟨0x48a, 28, 2⟩, ⟨0x4c1, 7, 2⟩, ⟨0x4d0, 48, 2⟩, ⟨0x531, 38, 1⟩, ⟨0x10a0, 38, 1⟩,
   ⟨0x10c7, 1, 1⟩, ⟨0x10cd, 1, 1⟩, ⟨0x13a0, 86, 1⟩, ⟨0x1c89, 1, 1⟩, ⟨0x1c90, 43, 1⟩,
   ⟨0x1cbd, 3, 1⟩, ⟨0x1e00, 75, 2⟩, ⟨0x1e9e, 49, 2⟩, ⟨0x1f08, 8, 1⟩, ⟨0x1f18, 6, 1⟩,
   ⟨0x1f28, 8, 1⟩, ⟨0x1f38, 8, 1⟩, ⟨0x1f48, 6, 1⟩, ⟨0x1f59, 4, 2⟩, ⟨0x1f68, 8, 1⟩, ⟨0x1fb8, 4, 1⟩,
   ⟨0x1fc8, 4, 1⟩, ⟨0x1fd8, 4, 1⟩, ⟨0x1fe8, 5, 1⟩, ⟨0x1ff8, 4, 1⟩, ⟨0x2102, 1, 1⟩, ⟨0x2107, 1, 1⟩,
   ⟨0x210b, 3, 1⟩, ⟨0x2110, 3, 1⟩, ⟨0x2115, 1, 1⟩, ⟨0x2119, 5, 1⟩, ⟨0x2124, 4, 2⟩, ⟨0x212b, 3, 1⟩,
   ⟨0x2130, 4, 1⟩, ⟨0x213e, 2, 1⟩, ⟨0x2145, 1, 1⟩, ⟨0x2183, 1, 1⟩, ⟨0x2c00, 48, 1⟩,
   ⟨0x2c60, 2, 2⟩, ⟨0x2c63, 2, 1⟩, ⟨0x2c67, 4, 2⟩, ⟨0x2c6e, 3, 1⟩, ⟨0x2c72, 1, 1⟩, ⟨0x2c75, 1, 1⟩,
   ⟨0x2c7e, 3, 1⟩, ⟨0x2c82, 49, 2⟩, ⟨0x2ceb, 2, 2⟩, ⟨0x2cf2, 1, 1⟩, ⟨0xa640, 23, 2⟩,
   ⟨0xa680, 14, 2⟩, ⟨0xa722, 7, 2⟩, ⟨0xa732, 31, 2⟩, ⟨0xa779, 3, 2⟩, ⟨0xa77e, 5, 2⟩,
   ⟨0xa78b, 2, 2⟩, ⟨0xa790, 2, 2⟩, ⟨0xa796, 11, 2⟩, ⟨0xa7ab, 4, 1⟩, ⟨0xa7b0, 5, 1⟩,
   ⟨0xa7b6, 8, 2⟩, ⟨0xa7c5, 3, 1⟩, ⟨0xa7c9, 2, 2⟩, ⟨0xa7cc, 1, 1⟩, ⟨0xa7d0, 1, 1⟩, ⟨0xa7d6, 4, 2⟩,
   ⟨0xa7f5, 1, 1⟩, ⟨0xff21, 26, 1⟩, ⟨0x10400, 40, 1⟩, ⟨0x104b0, 36, 1⟩, ⟨0x10570, 11, 1⟩,
   ⟨0x1057c, 15, 1⟩, ⟨0x1058c, 7, 1⟩, ⟨0x10594, 2, 1⟩, ⟨0x10c80, 51, 1⟩, ⟨0x10d50, 22, 1⟩,
   ⟨0x118a0, 32, 1⟩, ⟨0x16e40, 32, 1⟩, ⟨0x1d400, 26, 1⟩, ⟨0x1d434, 26, 1⟩, ⟨0x1d468, 26, 1⟩,
   ⟨0x1d49c, 2, 2⟩, ⟨0x1d49f, 1, 1⟩, ⟨0x1d4a2, 1, 1⟩, ⟨0x1d4a5, 2, 1⟩, ⟨0x1d4a9, 4, 1⟩,
   ⟨0x1d4ae, 8, 1⟩, ⟨0x1d4d0, 26, 1⟩, ⟨0x1d504, 2, 1⟩, ⟨0x1d507, 4, 1⟩, ⟨0x1d50d, 8, 1⟩,
   ⟨0x1d516, 7, 1⟩, ⟨0x1d538, 2, 1⟩, ⟨0x1d53b, 4, 1⟩, ⟨0x1d540, 5, 1⟩, ⟨0x1d546, 1, 1⟩,
   ⟨0x1d54a, 7, 1⟩, ⟨0x1d56c, 26, 1⟩, ⟨0x1d5a0, 26, 1⟩, ⟨0x1d5d4, 26, 1⟩, ⟨0x1d608, 26, 1⟩,
   ⟨0x1d63c, 26, 1⟩, ⟨0x1d670, 26, 1⟩, ⟨0x1d6a8, 25, 1⟩, ⟨0x1d6e2, 25, 1⟩, ⟨0x1d71c, 25, 1⟩,
   ⟨0x1d756, 25, 1⟩, ⟨0x1d790, 25, 1⟩, ⟨0x1d7ca, 1, 1⟩, ⟨0x1e900, 34, 1⟩]

def lowercaseRuns : List CharRun :=
  [⟨0x61, 26, 1⟩, ⟨0xb5, 1, 1⟩, ⟨0xdf, 24, 1⟩, ⟨0xf8, 8, 1⟩, ⟨0x101, 28, 2⟩, ⟨0x138, 9, 2⟩,
   ⟨0x149, 24, 2⟩, ⟨0x17a, 3, 2⟩, ⟨0x17f, 2, 1⟩, ⟨0x183, 2, 2⟩, ⟨0x188, 1, 1⟩, ⟨0x18c, 2, 1⟩,
   ⟨0x192, 1, 1⟩, ⟨0x195, 1, 1⟩, ⟨0x199, 3, 1⟩, ⟨0x19e, 1, 1⟩, ⟨0x1a1, 3, 2⟩, ⟨0x1a8, 2, 2⟩,
   ⟨0x1ab, 2, 2⟩, ⟨0x1b0, 1, 1⟩, ⟨0x1b4, 2, 2⟩, ⟨0x1b9, 2, 1⟩, ⟨0x1bd, 3, 1⟩, ⟨0x1c6, 1, 1⟩,
   ⟨0x1c9, 1, 1⟩, ⟨0x1cc, 9, 2⟩, ⟨0x1dd, 10, 2⟩, ⟨0x1f0, 1, 1⟩, ⟨0x1f3, 2, 2⟩, ⟨0x1f9, 30, 2⟩,
   ⟨0x234, 6, 1⟩, ⟨0x23c, 1, 1⟩, ⟨0x23f, 2, 1⟩, ⟨0x242, 1, 1⟩, ⟨0x247, 5, 2⟩, ⟨0x250, 68, 1⟩,
   ⟨0x295, 27, 1⟩, ⟨0x371, 2, 2⟩, ⟨0x377, 1, 1⟩, ⟨0x37b, 3, 1⟩, ⟨0x390, 1, 1⟩, ⟨0x3ac, 35, 1⟩,
   ⟨0x3d0, 2, 1⟩, ⟨0x3d5, 3, 1⟩, ⟨0x3d9, 12, 2⟩, ⟨0x3f0, 4, 1⟩, ⟨0x3f5, 1, 1⟩, ⟨0x3f8, 1, 1⟩,
   ⟨0x3fb, 2, 1⟩, ⟨0x430, 48, 1⟩, ⟨0x461, 17, 2⟩, ⟨0x48b, 27, 2⟩, ⟨0x4c2, 7, 2⟩, ⟨0x4cf, 49, 2⟩,
   ⟨0x560, 41, 1⟩, ⟨0x10d0, 43, 1⟩, ⟨0x10fd, 3, 1⟩, ⟨0x13f8, 6, 1⟩, ⟨0x1c80, 9, 1⟩,
   ⟨0x1c8a, 1, 1⟩, ⟨0x1d00, 44, 1⟩, ⟨0x1d6b, 13, 1⟩, ⟨0x1d79, 34, 1⟩, ⟨0x1e01, 75, 2⟩,
   ⟨0x1e96, 8, 1⟩, ⟨0x1e9f, 49, 2⟩, ⟨0x1f00, 8, 1⟩, ⟨0x1f10, 6, 1⟩, ⟨0x1f20, 8, 1⟩,
   ⟨0x1f30, 8, 1⟩, ⟨0x1f40, 6, 1⟩, ⟨0x1f50, 8, 1⟩, ⟨0x1f60, 8, 1⟩, ⟨0x1f70, 14, 1⟩,
   ⟨0x1f80, 8, 1⟩, ⟨0x1f90, 8, 1⟩, ⟨0x1fa0, 8, 1⟩, ⟨0x1fb0, 5, 1⟩, ⟨0x1fb6, 2, 1⟩, ⟨0x1fbe, 1, 1⟩,
   ⟨0x1fc2, 3, 1⟩, ⟨0x1fc6, 2, 1⟩, ⟨0x1fd0, 4, 1⟩, ⟨0x1fd6, 2, 1⟩, ⟨0x1fe0, 8, 1⟩, ⟨0x1ff2, 3, 1⟩,
   ⟨0x1ff6, 2, 1⟩, ⟨0x210a, 1, 1⟩, ⟨0x210e, 2, 1⟩, ⟨0x2113, 1, 1⟩, ⟨0x212f, 1, 1⟩, ⟨0x2134, 1, 1⟩,
   ⟨0x2139, 1, 1⟩, ⟨0x213c, 2, 1⟩, ⟨0x2146, 4, 1⟩, ⟨0x214e, 1, 1⟩, ⟨0x2184, 1, 1⟩,
   ⟨0x2c30, 48, 1⟩, ⟨0x2c61, 1, 1⟩, ⟨0x2c65, 2, 1⟩, ⟨0x2c68, 3, 2⟩, ⟨0x2c71, 2, 2⟩,
   ⟨0x2c74, 2, 2⟩, ⟨0x2c77, 5, 1⟩, ⟨0x2c81, 50, 2⟩, ⟨0x2ce4, 1, 1⟩, ⟨0x2cec, 2, 2⟩,
   ⟨0x2cf3, 1, 1⟩, ⟨0x2d00, 38, 1⟩, ⟨0x2d27, 1, 1⟩, ⟨0x2d2d, 1, 1⟩, ⟨0xa641, 23, 2⟩,
   ⟨0xa681, 14, 2⟩, ⟨0xa723, 7, 2⟩, ⟨0xa730, 2, 1⟩, ⟨0xa733, 32, 2⟩, ⟨0xa772, 7, 1⟩,
   ⟨0xa77a, 2, 2⟩, ⟨0xa77f, 5, 2⟩, ⟨0xa78c, 2, 2⟩, ⟨0xa791, 2, 2⟩, ⟨0xa794, 2, 1⟩,
   ⟨0xa797, 10, 2⟩, ⟨0xa7af, 1, 1⟩, ⟨0xa7b5, 8, 2⟩, ⟨0xa7c8, 2, 2⟩, ⟨0xa7cd, 1, 1⟩,
   ⟨0xa7d1, 6, 2⟩, ⟨0xa7f6, 1, 1⟩, ⟨0xa7fa, 1, 1⟩, ⟨0xab30, 43, 1⟩, ⟨0xab60, 9, 1⟩,
   ⟨0xab70, 80, 1⟩, ⟨0xfb00, 7, 1⟩, ⟨0xfb13, 5, 1⟩, ⟨0xff41, 26, 1⟩, ⟨0x10428, 40, 1⟩,
   ⟨0x104d8, 36, 1⟩, ⟨0x10597, 11, 1⟩, ⟨0x105a3, 15, 1⟩, ⟨0x105b3, 7, 1⟩, ⟨0x105bb, 2, 1⟩,
   ⟨0x10cc0, 51, 1⟩, ⟨0x10d70, 22, 1⟩, ⟨0x118c0, 32, 1⟩, ⟨0x16e60, 32, 1⟩, ⟨0x1d41a, 26, 1⟩,
   ⟨0x1d44e, 7, 1⟩, ⟨0x1d456, 18, 1⟩, ⟨0x1d482, 26, 1⟩, ⟨0x1d4b6, 4, 1⟩, ⟨0x1d4bb, 2, 2⟩,
   ⟨0x1d4be, 6, 1⟩, ⟨0x1d4c5, 11, 1⟩, ⟨0x1d4ea, 26, 1⟩, ⟨0x1d51e, 26, 1⟩, ⟨0x1d552, 26, 1⟩,
   ⟨0x1d586, 26, 1⟩, ⟨0x1d5ba, 26, 1⟩, ⟨0x1d5ee, 26, 1⟩, ⟨0x1d622, 26, 1⟩, ⟨0x1d656, 26, 1⟩,
   ⟨0x1d68a, 28, 1⟩, ⟨0x1d6c2, 25, 1⟩, ⟨0x1d6dc, 6, 1⟩, ⟨0x1d6fc, 25, 1⟩, ⟨0x1d716, 6, 1⟩,
   ⟨0x1d736, 25, 1⟩, ⟨0x1d750, 6, 1⟩, ⟨0x1d770, 25, 1⟩, ⟨0x1d78a, 6, 1⟩, ⟨0x1d7aa, 25, 1⟩,
   ⟨0x1d7c4, 6, 1⟩, ⟨0x1d7cb, 1, 1⟩, ⟨0x1df00, 10, 1⟩, ⟨0x1df0b, 20, 1⟩, ⟨0x1df25, 6, 1⟩,
   ⟨0x1e922, 34, 1⟩]

/-- Digraphs with one capital. -/
def titlecaseRanges : Ranges :=
  [(0x1c5, 0x1c5), (0x1c8, 0x1c8), (0x1cb, 0x1cb), (0x1f2, 0x1f2), (0x1f88, 0x1f8f),
   (0x1f98, 0x1f9f), (0x1fa8, 0x1faf), (0x1fbc, 0x1fbc), (0x1fcc, 0x1fcc), (0x1ffc, 0x1ffc)]

/-- Letters that modify others. -/
def modifierLetterRanges : Ranges :=
  [(0x2b0, 0x2c1), (0x2c6, 0x2d1), (0x2e0, 0x2e4), (0x2ec, 0x2ec), (0x2ee, 0x2ee), (0x374, 0x374),
   (0x37a, 0x37a), (0x559, 0x559), (0x640, 0x640), (0x6e5, 0x6e6), (0x7f4, 0x7f5), (0x7fa, 0x7fa),
   (0x81a, 0x81a), (0x824, 0x824), (0x828, 0x828), (0x8c9, 0x8c9), (0x971, 0x971), (0xe46, 0xe46),
   (0xec6, 0xec6), (0x10fc, 0x10fc), (0x17d7, 0x17d7), (0x1843, 0x1843), (0x1aa7, 0x1aa7),
   (0x1c78, 0x1c7d), (0x1d2c, 0x1d6a), (0x1d78, 0x1d78), (0x1d9b, 0x1dbf), (0x2071, 0x2071),
   (0x207f, 0x207f), (0x2090, 0x209c), (0x2c7c, 0x2c7d), (0x2d6f, 0x2d6f), (0x2e2f, 0x2e2f),
   (0x3005, 0x3005), (0x3031, 0x3035), (0x303b, 0x303b), (0x309d, 0x309e), (0x30fc, 0x30fe),
   (0xa015, 0xa015), (0xa4f8, 0xa4fd), (0xa60c, 0xa60c), (0xa67f, 0xa67f), (0xa69c, 0xa69d),
   (0xa717, 0xa71f), (0xa770, 0xa770), (0xa788, 0xa788), (0xa7f2, 0xa7f4), (0xa7f8, 0xa7f9),
   (0xa9cf, 0xa9cf), (0xa9e6, 0xa9e6), (0xaa70, 0xaa70), (0xaadd, 0xaadd), (0xaaf3, 0xaaf4),
   (0xab5c, 0xab5f), (0xab69, 0xab69), (0xff70, 0xff70), (0xff9e, 0xff9f), (0x10780, 0x10785),
   (0x10787, 0x107b0), (0x107b2, 0x107ba), (0x10d4e, 0x10d4e), (0x10d6f, 0x10d6f),
   (0x16b40, 0x16b43), (0x16d40, 0x16d42), (0x16d6b, 0x16d6c), (0x16f93, 0x16f9f),
   (0x16fe0, 0x16fe1), (0x16fe3, 0x16fe3), (0x1aff0, 0x1aff3), (0x1aff5, 0x1affb),
   (0x1affd, 0x1affe), (0x1e030, 0x1e06d), (0x1e137, 0x1e13d), (0x1e4eb, 0x1e4eb),
   (0x1e94b, 0x1e94b)]

/-- Marks that take no room of their own. -/
def nonspacingMarkRanges : Ranges :=
  [(0x300, 0x36f), (0x483, 0x487), (0x591, 0x5bd), (0x5bf, 0x5bf), (0x5c1, 0x5c2), (0x5c4, 0x5c5),
   (0x5c7, 0x5c7), (0x610, 0x61a), (0x64b, 0x65f), (0x670, 0x670), (0x6d6, 0x6dc), (0x6df, 0x6e4),
   (0x6e7, 0x6e8), (0x6ea, 0x6ed), (0x711, 0x711), (0x730, 0x74a), (0x7a6, 0x7b0), (0x7eb, 0x7f3),
   (0x7fd, 0x7fd), (0x816, 0x819), (0x81b, 0x823), (0x825, 0x827), (0x829, 0x82d), (0x859, 0x85b),
   (0x897, 0x89f), (0x8ca, 0x8e1), (0x8e3, 0x902), (0x93a, 0x93a), (0x93c, 0x93c), (0x941, 0x948),
   (0x94d, 0x94d), (0x951, 0x957), (0x962, 0x963), (0x981, 0x981), (0x9bc, 0x9bc), (0x9c1, 0x9c4),
   (0x9cd, 0x9cd), (0x9e2, 0x9e3), (0x9fe, 0x9fe), (0xa01, 0xa02), (0xa3c, 0xa3c), (0xa41, 0xa42),
   (0xa47, 0xa48), (0xa4b, 0xa4d), (0xa51, 0xa51), (0xa70, 0xa71), (0xa75, 0xa75), (0xa81, 0xa82),
   (0xabc, 0xabc), (0xac1, 0xac5), (0xac7, 0xac8), (0xacd, 0xacd), (0xae2, 0xae3), (0xafa, 0xaff),
   (0xb01, 0xb01), (0xb3c, 0xb3c), (0xb3f, 0xb3f), (0xb41, 0xb44), (0xb4d, 0xb4d), (0xb55, 0xb56),
   (0xb62, 0xb63), (0xb82, 0xb82), (0xbc0, 0xbc0), (0xbcd, 0xbcd), (0xc00, 0xc00), (0xc04, 0xc04),
   (0xc3c, 0xc3c), (0xc3e, 0xc40), (0xc46, 0xc48), (0xc4a, 0xc4d), (0xc55, 0xc56), (0xc62, 0xc63),
   (0xc81, 0xc81), (0xcbc, 0xcbc), (0xcbf, 0xcbf), (0xcc6, 0xcc6), (0xccc, 0xccd), (0xce2, 0xce3),
   (0xd00, 0xd01), (0xd3b, 0xd3c), (0xd41, 0xd44), (0xd4d, 0xd4d), (0xd62, 0xd63), (0xd81, 0xd81),
   (0xdca, 0xdca), (0xdd2, 0xdd4), (0xdd6, 0xdd6), (0xe31, 0xe31), (0xe34, 0xe3a), (0xe47, 0xe4e),
   (0xeb1, 0xeb1), (0xeb4, 0xebc), (0xec8, 0xece), (0xf18, 0xf19), (0xf35, 0xf35), (0xf37, 0xf37),
   (0xf39, 0xf39), (0xf71, 0xf7e), (0xf80, 0xf84), (0xf86, 0xf87), (0xf8d, 0xf97), (0xf99, 0xfbc),
   (0xfc6, 0xfc6), (0x102d, 0x1030), (0x1032, 0x1037), (0x1039, 0x103a), (0x103d, 0x103e),
   (0x1058, 0x1059), (0x105e, 0x1060), (0x1071, 0x1074), (0x1082, 0x1082), (0x1085, 0x1086),
   (0x108d, 0x108d), (0x109d, 0x109d), (0x135d, 0x135f), (0x1712, 0x1714), (0x1732, 0x1733),
   (0x1752, 0x1753), (0x1772, 0x1773), (0x17b4, 0x17b5), (0x17b7, 0x17bd), (0x17c6, 0x17c6),
   (0x17c9, 0x17d3), (0x17dd, 0x17dd), (0x180b, 0x180d), (0x180f, 0x180f), (0x1885, 0x1886),
   (0x18a9, 0x18a9), (0x1920, 0x1922), (0x1927, 0x1928), (0x1932, 0x1932), (0x1939, 0x193b),
   (0x1a17, 0x1a18), (0x1a1b, 0x1a1b), (0x1a56, 0x1a56), (0x1a58, 0x1a5e), (0x1a60, 0x1a60),
   (0x1a62, 0x1a62), (0x1a65, 0x1a6c), (0x1a73, 0x1a7c), (0x1a7f, 0x1a7f), (0x1ab0, 0x1abd),
   (0x1abf, 0x1ace), (0x1b00, 0x1b03), (0x1b34, 0x1b34), (0x1b36, 0x1b3a), (0x1b3c, 0x1b3c),
   (0x1b42, 0x1b42), (0x1b6b, 0x1b73), (0x1b80, 0x1b81), (0x1ba2, 0x1ba5), (0x1ba8, 0x1ba9),
   (0x1bab, 0x1bad), (0x1be6, 0x1be6), (0x1be8, 0x1be9), (0x1bed, 0x1bed), (0x1bef, 0x1bf1),
   (0x1c2c, 0x1c33), (0x1c36, 0x1c37), (0x1cd0, 0x1cd2), (0x1cd4, 0x1ce0), (0x1ce2, 0x1ce8),
   (0x1ced, 0x1ced), (0x1cf4, 0x1cf4), (0x1cf8, 0x1cf9), (0x1dc0, 0x1dff), (0x20d0, 0x20dc),
   (0x20e1, 0x20e1), (0x20e5, 0x20f0), (0x2cef, 0x2cf1), (0x2d7f, 0x2d7f), (0x2de0, 0x2dff),
   (0x302a, 0x302d), (0x3099, 0x309a), (0xa66f, 0xa66f), (0xa674, 0xa67d), (0xa69e, 0xa69f),
   (0xa6f0, 0xa6f1), (0xa802, 0xa802), (0xa806, 0xa806), (0xa80b, 0xa80b), (0xa825, 0xa826),
   (0xa82c, 0xa82c), (0xa8c4, 0xa8c5), (0xa8e0, 0xa8f1), (0xa8ff, 0xa8ff), (0xa926, 0xa92d),
   (0xa947, 0xa951), (0xa980, 0xa982), (0xa9b3, 0xa9b3), (0xa9b6, 0xa9b9), (0xa9bc, 0xa9bd),
   (0xa9e5, 0xa9e5), (0xaa29, 0xaa2e), (0xaa31, 0xaa32), (0xaa35, 0xaa36), (0xaa43, 0xaa43),
   (0xaa4c, 0xaa4c), (0xaa7c, 0xaa7c), (0xaab0, 0xaab0), (0xaab2, 0xaab4), (0xaab7, 0xaab8),
   (0xaabe, 0xaabf), (0xaac1, 0xaac1), (0xaaec, 0xaaed), (0xaaf6, 0xaaf6), (0xabe5, 0xabe5),
   (0xabe8, 0xabe8), (0xabed, 0xabed), (0xfb1e, 0xfb1e), (0xfe00, 0xfe0f), (0xfe20, 0xfe2f),
   (0x101fd, 0x101fd), (0x102e0, 0x102e0), (0x10376, 0x1037a), (0x10a01, 0x10a03),
   (0x10a05, 0x10a06), (0x10a0c, 0x10a0f), (0x10a38, 0x10a3a), (0x10a3f, 0x10a3f),
   (0x10ae5, 0x10ae6), (0x10d24, 0x10d27), (0x10d69, 0x10d6d), (0x10eab, 0x10eac),
   (0x10efc, 0x10eff), (0x10f46, 0x10f50), (0x10f82, 0x10f85), (0x11001, 0x11001),
   (0x11038, 0x11046), (0x11070, 0x11070), (0x11073, 0x11074), (0x1107f, 0x11081),
   (0x110b3, 0x110b6), (0x110b9, 0x110ba), (0x110c2, 0x110c2), (0x11100, 0x11102),
   (0x11127, 0x1112b), (0x1112d, 0x11134), (0x11173, 0x11173), (0x11180, 0x11181),
   (0x111b6, 0x111be), (0x111c9, 0x111cc), (0x111cf, 0x111cf), (0x1122f, 0x11231),
   (0x11234, 0x11234), (0x11236, 0x11237), (0x1123e, 0x1123e), (0x11241, 0x11241),
   (0x112df, 0x112df), (0x112e3, 0x112ea), (0x11300, 0x11301), (0x1133b, 0x1133c),
   (0x11340, 0x11340), (0x11366, 0x1136c), (0x11370, 0x11374), (0x113bb, 0x113c0),
   (0x113ce, 0x113ce), (0x113d0, 0x113d0), (0x113d2, 0x113d2), (0x113e1, 0x113e2),
   (0x11438, 0x1143f), (0x11442, 0x11444), (0x11446, 0x11446), (0x1145e, 0x1145e),
   (0x114b3, 0x114b8), (0x114ba, 0x114ba), (0x114bf, 0x114c0), (0x114c2, 0x114c3),
   (0x115b2, 0x115b5), (0x115bc, 0x115bd), (0x115bf, 0x115c0), (0x115dc, 0x115dd),
   (0x11633, 0x1163a), (0x1163d, 0x1163d), (0x1163f, 0x11640), (0x116ab, 0x116ab),
   (0x116ad, 0x116ad), (0x116b0, 0x116b5), (0x116b7, 0x116b7), (0x1171d, 0x1171d),
   (0x1171f, 0x1171f), (0x11722, 0x11725), (0x11727, 0x1172b), (0x1182f, 0x11837),
   (0x11839, 0x1183a), (0x1193b, 0x1193c), (0x1193e, 0x1193e), (0x11943, 0x11943),
   (0x119d4, 0x119d7), (0x119da, 0x119db), (0x119e0, 0x119e0), (0x11a01, 0x11a0a),
   (0x11a33, 0x11a38), (0x11a3b, 0x11a3e), (0x11a47, 0x11a47), (0x11a51, 0x11a56),
   (0x11a59, 0x11a5b), (0x11a8a, 0x11a96), (0x11a98, 0x11a99), (0x11c30, 0x11c36),
   (0x11c38, 0x11c3d), (0x11c3f, 0x11c3f), (0x11c92, 0x11ca7), (0x11caa, 0x11cb0),
   (0x11cb2, 0x11cb3), (0x11cb5, 0x11cb6), (0x11d31, 0x11d36), (0x11d3a, 0x11d3a),
   (0x11d3c, 0x11d3d), (0x11d3f, 0x11d45), (0x11d47, 0x11d47), (0x11d90, 0x11d91),
   (0x11d95, 0x11d95), (0x11d97, 0x11d97), (0x11ef3, 0x11ef4), (0x11f00, 0x11f01),
   (0x11f36, 0x11f3a), (0x11f40, 0x11f40), (0x11f42, 0x11f42), (0x11f5a, 0x11f5a),
   (0x13440, 0x13440), (0x13447, 0x13455), (0x1611e, 0x16129), (0x1612d, 0x1612f),
   (0x16af0, 0x16af4), (0x16b30, 0x16b36), (0x16f4f, 0x16f4f), (0x16f8f, 0x16f92),
   (0x16fe4, 0x16fe4), (0x1bc9d, 0x1bc9e), (0x1cf00, 0x1cf2d), (0x1cf30, 0x1cf46),
   (0x1d167, 0x1d169), (0x1d17b, 0x1d182), (0x1d185, 0x1d18b), (0x1d1aa, 0x1d1ad),
   (0x1d242, 0x1d244), (0x1da00, 0x1da36), (0x1da3b, 0x1da6c), (0x1da75, 0x1da75),
   (0x1da84, 0x1da84), (0x1da9b, 0x1da9f), (0x1daa1, 0x1daaf), (0x1e000, 0x1e006),
   (0x1e008, 0x1e018), (0x1e01b, 0x1e021), (0x1e023, 0x1e024), (0x1e026, 0x1e02a),
   (0x1e08f, 0x1e08f), (0x1e130, 0x1e136), (0x1e2ae, 0x1e2ae), (0x1e2ec, 0x1e2ef),
   (0x1e4ec, 0x1e4ef), (0x1e5ee, 0x1e5ef), (0x1e8d0, 0x1e8d6), (0x1e944, 0x1e94a),
   (0xe0100, 0xe01ef)]

/-- Marks that take room of their own. -/
def spacingMarkRanges : Ranges :=
  [(0x903, 0x903), (0x93b, 0x93b), (0x93e, 0x940), (0x949, 0x94c), (0x94e, 0x94f), (0x982, 0x983),
   (0x9be, 0x9c0), (0x9c7, 0x9c8), (0x9cb, 0x9cc), (0x9d7, 0x9d7), (0xa03, 0xa03), (0xa3e, 0xa40),
   (0xa83, 0xa83), (0xabe, 0xac0), (0xac9, 0xac9), (0xacb, 0xacc), (0xb02, 0xb03), (0xb3e, 0xb3e),
   (0xb40, 0xb40), (0xb47, 0xb48), (0xb4b, 0xb4c), (0xb57, 0xb57), (0xbbe, 0xbbf), (0xbc1, 0xbc2),
   (0xbc6, 0xbc8), (0xbca, 0xbcc), (0xbd7, 0xbd7), (0xc01, 0xc03), (0xc41, 0xc44), (0xc82, 0xc83),
   (0xcbe, 0xcbe), (0xcc0, 0xcc4), (0xcc7, 0xcc8), (0xcca, 0xccb), (0xcd5, 0xcd6), (0xcf3, 0xcf3),
   (0xd02, 0xd03), (0xd3e, 0xd40), (0xd46, 0xd48), (0xd4a, 0xd4c), (0xd57, 0xd57), (0xd82, 0xd83),
   (0xdcf, 0xdd1), (0xdd8, 0xddf), (0xdf2, 0xdf3), (0xf3e, 0xf3f), (0xf7f, 0xf7f),
   (0x102b, 0x102c), (0x1031, 0x1031), (0x1038, 0x1038), (0x103b, 0x103c), (0x1056, 0x1057),
   (0x1062, 0x1064), (0x1067, 0x106d), (0x1083, 0x1084), (0x1087, 0x108c), (0x108f, 0x108f),
   (0x109a, 0x109c), (0x1715, 0x1715), (0x1734, 0x1734), (0x17b6, 0x17b6), (0x17be, 0x17c5),
   (0x17c7, 0x17c8), (0x1923, 0x1926), (0x1929, 0x192b), (0x1930, 0x1931), (0x1933, 0x1938),
   (0x1a19, 0x1a1a), (0x1a55, 0x1a55), (0x1a57, 0x1a57), (0x1a61, 0x1a61), (0x1a63, 0x1a64),
   (0x1a6d, 0x1a72), (0x1b04, 0x1b04), (0x1b35, 0x1b35), (0x1b3b, 0x1b3b), (0x1b3d, 0x1b41),
   (0x1b43, 0x1b44), (0x1b82, 0x1b82), (0x1ba1, 0x1ba1), (0x1ba6, 0x1ba7), (0x1baa, 0x1baa),
   (0x1be7, 0x1be7), (0x1bea, 0x1bec), (0x1bee, 0x1bee), (0x1bf2, 0x1bf3), (0x1c24, 0x1c2b),
   (0x1c34, 0x1c35), (0x1ce1, 0x1ce1), (0x1cf7, 0x1cf7), (0x302e, 0x302f), (0xa823, 0xa824),
   (0xa827, 0xa827), (0xa880, 0xa881), (0xa8b4, 0xa8c3), (0xa952, 0xa953), (0xa983, 0xa983),
   (0xa9b4, 0xa9b5), (0xa9ba, 0xa9bb), (0xa9be, 0xa9c0), (0xaa2f, 0xaa30), (0xaa33, 0xaa34),
   (0xaa4d, 0xaa4d), (0xaa7b, 0xaa7b), (0xaa7d, 0xaa7d), (0xaaeb, 0xaaeb), (0xaaee, 0xaaef),
   (0xaaf5, 0xaaf5), (0xabe3, 0xabe4), (0xabe6, 0xabe7), (0xabe9, 0xabea), (0xabec, 0xabec),
   (0x11000, 0x11000), (0x11002, 0x11002), (0x11082, 0x11082), (0x110b0, 0x110b2),
   (0x110b7, 0x110b8), (0x1112c, 0x1112c), (0x11145, 0x11146), (0x11182, 0x11182),
   (0x111b3, 0x111b5), (0x111bf, 0x111c0), (0x111ce, 0x111ce), (0x1122c, 0x1122e),
   (0x11232, 0x11233), (0x11235, 0x11235), (0x112e0, 0x112e2), (0x11302, 0x11303),
   (0x1133e, 0x1133f), (0x11341, 0x11344), (0x11347, 0x11348), (0x1134b, 0x1134d),
   (0x11357, 0x11357), (0x11362, 0x11363), (0x113b8, 0x113ba), (0x113c2, 0x113c2),
   (0x113c5, 0x113c5), (0x113c7, 0x113ca), (0x113cc, 0x113cd), (0x113cf, 0x113cf),
   (0x11435, 0x11437), (0x11440, 0x11441), (0x11445, 0x11445), (0x114b0, 0x114b2),
   (0x114b9, 0x114b9), (0x114bb, 0x114be), (0x114c1, 0x114c1), (0x115af, 0x115b1),
   (0x115b8, 0x115bb), (0x115be, 0x115be), (0x11630, 0x11632), (0x1163b, 0x1163c),
   (0x1163e, 0x1163e), (0x116ac, 0x116ac), (0x116ae, 0x116af), (0x116b6, 0x116b6),
   (0x1171e, 0x1171e), (0x11720, 0x11721), (0x11726, 0x11726), (0x1182c, 0x1182e),
   (0x11838, 0x11838), (0x11930, 0x11935), (0x11937, 0x11938), (0x1193d, 0x1193d),
   (0x11940, 0x11940), (0x11942, 0x11942), (0x119d1, 0x119d3), (0x119dc, 0x119df),
   (0x119e4, 0x119e4), (0x11a39, 0x11a39), (0x11a57, 0x11a58), (0x11a97, 0x11a97),
   (0x11c2f, 0x11c2f), (0x11c3e, 0x11c3e), (0x11ca9, 0x11ca9), (0x11cb1, 0x11cb1),
   (0x11cb4, 0x11cb4), (0x11d8a, 0x11d8e), (0x11d93, 0x11d94), (0x11d96, 0x11d96),
   (0x11ef5, 0x11ef6), (0x11f03, 0x11f03), (0x11f34, 0x11f35), (0x11f3e, 0x11f3f),
   (0x11f41, 0x11f41), (0x1612a, 0x1612c), (0x16f51, 0x16f87), (0x16ff0, 0x16ff1),
   (0x1d165, 0x1d166), (0x1d16d, 0x1d172)]

/-- Marks that enclose a character. -/
def enclosingMarkRanges : Ranges :=
  [(0x488, 0x489), (0x1abe, 0x1abe), (0x20dd, 0x20e0), (0x20e2, 0x20e4), (0xa670, 0xa672)]

/-- Numerals that are letters. -/
def letterNumberRanges : Ranges :=
  [(0x16ee, 0x16f0), (0x2160, 0x2182), (0x2185, 0x2188), (0x3007, 0x3007), (0x3021, 0x3029),
   (0x3038, 0x303a), (0xa6e6, 0xa6ef), (0x10140, 0x10174), (0x10341, 0x10341), (0x1034a, 0x1034a),
   (0x103d1, 0x103d5), (0x12400, 0x1246e)]

/-- Connecting punctuation. -/
def connectorRanges : Ranges :=
  [(0x5f, 0x5f), (0x203f, 0x2040), (0x2054, 0x2054), (0xfe33, 0xfe34), (0xfe4d, 0xfe4f),
   (0xff3f, 0xff3f)]

def dashRanges : Ranges :=
  [(0x2d, 0x2d), (0x58a, 0x58a), (0x5be, 0x5be), (0x1400, 0x1400), (0x1806, 0x1806),
   (0x2010, 0x2015), (0x2e17, 0x2e17), (0x2e1a, 0x2e1a), (0x2e3a, 0x2e3b), (0x2e40, 0x2e40),
   (0x2e5d, 0x2e5d), (0x301c, 0x301c), (0x3030, 0x3030), (0x30a0, 0x30a0), (0xfe31, 0xfe32),
   (0xfe58, 0xfe58), (0xfe63, 0xfe63), (0xff0d, 0xff0d), (0x10d6e, 0x10d6e), (0x10ead, 0x10ead)]

/-- Opening punctuation. -/
def openingRanges : Ranges :=
  [(0x28, 0x28), (0x5b, 0x5b), (0x7b, 0x7b), (0xf3a, 0xf3a), (0xf3c, 0xf3c), (0x169b, 0x169b),
   (0x201a, 0x201a), (0x201e, 0x201e), (0x2045, 0x2045), (0x207d, 0x207d), (0x208d, 0x208d),
   (0x2308, 0x2308), (0x230a, 0x230a), (0x2329, 0x2329), (0x2768, 0x2768), (0x276a, 0x276a),
   (0x276c, 0x276c), (0x276e, 0x276e), (0x2770, 0x2770), (0x2772, 0x2772), (0x2774, 0x2774),
   (0x27c5, 0x27c5), (0x27e6, 0x27e6), (0x27e8, 0x27e8), (0x27ea, 0x27ea), (0x27ec, 0x27ec),
   (0x27ee, 0x27ee), (0x2983, 0x2983), (0x2985, 0x2985), (0x2987, 0x2987), (0x2989, 0x2989),
   (0x298b, 0x298b), (0x298d, 0x298d), (0x298f, 0x298f), (0x2991, 0x2991), (0x2993, 0x2993),
   (0x2995, 0x2995), (0x2997, 0x2997), (0x29d8, 0x29d8), (0x29da, 0x29da), (0x29fc, 0x29fc),
   (0x2e22, 0x2e22), (0x2e24, 0x2e24), (0x2e26, 0x2e26), (0x2e28, 0x2e28), (0x2e42, 0x2e42),
   (0x2e55, 0x2e55), (0x2e57, 0x2e57), (0x2e59, 0x2e59), (0x2e5b, 0x2e5b), (0x3008, 0x3008),
   (0x300a, 0x300a), (0x300c, 0x300c), (0x300e, 0x300e), (0x3010, 0x3010), (0x3014, 0x3014),
   (0x3016, 0x3016), (0x3018, 0x3018), (0x301a, 0x301a), (0x301d, 0x301d), (0xfd3f, 0xfd3f),
   (0xfe17, 0xfe17), (0xfe35, 0xfe35), (0xfe37, 0xfe37), (0xfe39, 0xfe39), (0xfe3b, 0xfe3b),
   (0xfe3d, 0xfe3d), (0xfe3f, 0xfe3f), (0xfe41, 0xfe41), (0xfe43, 0xfe43), (0xfe47, 0xfe47),
   (0xfe59, 0xfe59), (0xfe5b, 0xfe5b), (0xfe5d, 0xfe5d), (0xff08, 0xff08), (0xff3b, 0xff3b),
   (0xff5b, 0xff5b), (0xff5f, 0xff5f), (0xff62, 0xff62)]

/-- Closing punctuation. -/
def closingRanges : Ranges :=
  [(0x29, 0x29), (0x5d, 0x5d), (0x7d, 0x7d), (0xf3b, 0xf3b), (0xf3d, 0xf3d), (0x169c, 0x169c),
   (0x2046, 0x2046), (0x207e, 0x207e), (0x208e, 0x208e), (0x2309, 0x2309), (0x230b, 0x230b),
   (0x232a, 0x232a), (0x2769, 0x2769), (0x276b, 0x276b), (0x276d, 0x276d), (0x276f, 0x276f),
   (0x2771, 0x2771), (0x2773, 0x2773), (0x2775, 0x2775), (0x27c6, 0x27c6), (0x27e7, 0x27e7),
   (0x27e9, 0x27e9), (0x27eb, 0x27eb), (0x27ed, 0x27ed), (0x27ef, 0x27ef), (0x2984, 0x2984),
   (0x2986, 0x2986), (0x2988, 0x2988), (0x298a, 0x298a), (0x298c, 0x298c), (0x298e, 0x298e),
   (0x2990, 0x2990), (0x2992, 0x2992), (0x2994, 0x2994), (0x2996, 0x2996), (0x2998, 0x2998),
   (0x29d9, 0x29d9), (0x29db, 0x29db), (0x29fd, 0x29fd), (0x2e23, 0x2e23), (0x2e25, 0x2e25),
   (0x2e27, 0x2e27), (0x2e29, 0x2e29), (0x2e56, 0x2e56), (0x2e58, 0x2e58), (0x2e5a, 0x2e5a),
   (0x2e5c, 0x2e5c), (0x3009, 0x3009), (0x300b, 0x300b), (0x300d, 0x300d), (0x300f, 0x300f),
   (0x3011, 0x3011), (0x3015, 0x3015), (0x3017, 0x3017), (0x3019, 0x3019), (0x301b, 0x301b),
   (0x301e, 0x301f), (0xfd3e, 0xfd3e), (0xfe18, 0xfe18), (0xfe36, 0xfe36), (0xfe38, 0xfe38),
   (0xfe3a, 0xfe3a), (0xfe3c, 0xfe3c), (0xfe3e, 0xfe3e), (0xfe40, 0xfe40), (0xfe42, 0xfe42),
   (0xfe44, 0xfe44), (0xfe48, 0xfe48), (0xfe5a, 0xfe5a), (0xfe5c, 0xfe5c), (0xfe5e, 0xfe5e),
   (0xff09, 0xff09), (0xff3d, 0xff3d), (0xff5d, 0xff5d), (0xff60, 0xff60), (0xff63, 0xff63)]

/-- Opening quotation marks. -/
def initialQuoteRanges : Ranges :=
  [(0xab, 0xab), (0x2018, 0x2018), (0x201b, 0x201c), (0x201f, 0x201f), (0x2039, 0x2039),
   (0x2e02, 0x2e02), (0x2e04, 0x2e04), (0x2e09, 0x2e09), (0x2e0c, 0x2e0c), (0x2e1c, 0x2e1c),
   (0x2e20, 0x2e20)]

/-- Closing quotation marks. -/
def finalQuoteRanges : Ranges :=
  [(0xbb, 0xbb), (0x2019, 0x2019), (0x201d, 0x201d), (0x203a, 0x203a), (0x2e03, 0x2e03),
   (0x2e05, 0x2e05), (0x2e0a, 0x2e0a), (0x2e0d, 0x2e0d), (0x2e1d, 0x2e1d), (0x2e21, 0x2e21)]

def otherPunctuationRanges : Ranges :=
  [(0x21, 0x23), (0x25, 0x27), (0x2a, 0x2a), (0x2c, 0x2c), (0x2e, 0x2f), (0x3a, 0x3b),
   (0x3f, 0x40), (0x5c, 0x5c), (0xa1, 0xa1), (0xa7, 0xa7), (0xb6, 0xb7), (0xbf, 0xbf),
   (0x37e, 0x37e), (0x387, 0x387), (0x55a, 0x55f), (0x589, 0x589), (0x5c0, 0x5c0), (0x5c3, 0x5c3),
   (0x5c6, 0x5c6), (0x5f3, 0x5f4), (0x609, 0x60a), (0x60c, 0x60d), (0x61b, 0x61b), (0x61d, 0x61f),
   (0x66a, 0x66d), (0x6d4, 0x6d4), (0x700, 0x70d), (0x7f7, 0x7f9), (0x830, 0x83e), (0x85e, 0x85e),
   (0x964, 0x965), (0x970, 0x970), (0x9fd, 0x9fd), (0xa76, 0xa76), (0xaf0, 0xaf0), (0xc77, 0xc77),
   (0xc84, 0xc84), (0xdf4, 0xdf4), (0xe4f, 0xe4f), (0xe5a, 0xe5b), (0xf04, 0xf12), (0xf14, 0xf14),
   (0xf85, 0xf85), (0xfd0, 0xfd4), (0xfd9, 0xfda), (0x104a, 0x104f), (0x10fb, 0x10fb),
   (0x1360, 0x1368), (0x166e, 0x166e), (0x16eb, 0x16ed), (0x1735, 0x1736), (0x17d4, 0x17d6),
   (0x17d8, 0x17da), (0x1800, 0x1805), (0x1807, 0x180a), (0x1944, 0x1945), (0x1a1e, 0x1a1f),
   (0x1aa0, 0x1aa6), (0x1aa8, 0x1aad), (0x1b4e, 0x1b4f), (0x1b5a, 0x1b60), (0x1b7d, 0x1b7f),
   (0x1bfc, 0x1bff), (0x1c3b, 0x1c3f), (0x1c7e, 0x1c7f), (0x1cc0, 0x1cc7), (0x1cd3, 0x1cd3),
   (0x2016, 0x2017), (0x2020, 0x2027), (0x2030, 0x2038), (0x203b, 0x203e), (0x2041, 0x2043),
   (0x2047, 0x2051), (0x2053, 0x2053), (0x2055, 0x205e), (0x2cf9, 0x2cfc), (0x2cfe, 0x2cff),
   (0x2d70, 0x2d70), (0x2e00, 0x2e01), (0x2e06, 0x2e08), (0x2e0b, 0x2e0b), (0x2e0e, 0x2e16),
   (0x2e18, 0x2e19), (0x2e1b, 0x2e1b), (0x2e1e, 0x2e1f), (0x2e2a, 0x2e2e), (0x2e30, 0x2e39),
   (0x2e3c, 0x2e3f), (0x2e41, 0x2e41), (0x2e43, 0x2e4f), (0x2e52, 0x2e54), (0x3001, 0x3003),
   (0x303d, 0x303d), (0x30fb, 0x30fb), (0xa4fe, 0xa4ff), (0xa60d, 0xa60f), (0xa673, 0xa673),
   (0xa67e, 0xa67e), (0xa6f2, 0xa6f7), (0xa874, 0xa877), (0xa8ce, 0xa8cf), (0xa8f8, 0xa8fa),
   (0xa8fc, 0xa8fc), (0xa92e, 0xa92f), (0xa95f, 0xa95f), (0xa9c1, 0xa9cd), (0xa9de, 0xa9df),
   (0xaa5c, 0xaa5f), (0xaade, 0xaadf), (0xaaf0, 0xaaf1), (0xabeb, 0xabeb), (0xfe10, 0xfe16),
   (0xfe19, 0xfe19), (0xfe30, 0xfe30), (0xfe45, 0xfe46), (0xfe49, 0xfe4c), (0xfe50, 0xfe52),
   (0xfe54, 0xfe57), (0xfe5f, 0xfe61), (0xfe68, 0xfe68), (0xfe6a, 0xfe6b), (0xff01, 0xff03),
   (0xff05, 0xff07), (0xff0a, 0xff0a), (0xff0c, 0xff0c), (0xff0e, 0xff0f), (0xff1a, 0xff1b),
   (0xff1f, 0xff20), (0xff3c, 0xff3c), (0xff61, 0xff61), (0xff64, 0xff65), (0x10100, 0x10102),
   (0x1039f, 0x1039f), (0x103d0, 0x103d0), (0x1056f, 0x1056f), (0x10857, 0x10857),
   (0x1091f, 0x1091f), (0x1093f, 0x1093f), (0x10a50, 0x10a58), (0x10a7f, 0x10a7f),
   (0x10af0, 0x10af6), (0x10b39, 0x10b3f), (0x10b99, 0x10b9c), (0x10f55, 0x10f59),
   (0x10f86, 0x10f89), (0x11047, 0x1104d), (0x110bb, 0x110bc), (0x110be, 0x110c1),
   (0x11140, 0x11143), (0x11174, 0x11175), (0x111c5, 0x111c8), (0x111cd, 0x111cd),
   (0x111db, 0x111db), (0x111dd, 0x111df), (0x11238, 0x1123d), (0x112a9, 0x112a9),
   (0x113d4, 0x113d5), (0x113d7, 0x113d8), (0x1144b, 0x1144f), (0x1145a, 0x1145b),
   (0x1145d, 0x1145d), (0x114c6, 0x114c6), (0x115c1, 0x115d7), (0x11641, 0x11643),
   (0x11660, 0x1166c), (0x116b9, 0x116b9), (0x1173c, 0x1173e), (0x1183b, 0x1183b),
   (0x11944, 0x11946), (0x119e2, 0x119e2), (0x11a3f, 0x11a46), (0x11a9a, 0x11a9c),
   (0x11a9e, 0x11aa2), (0x11b00, 0x11b09), (0x11be1, 0x11be1), (0x11c41, 0x11c45),
   (0x11c70, 0x11c71), (0x11ef7, 0x11ef8), (0x11f43, 0x11f4f), (0x11fff, 0x11fff),
   (0x12470, 0x12474), (0x12ff1, 0x12ff2), (0x16a6e, 0x16a6f), (0x16af5, 0x16af5),
   (0x16b37, 0x16b3b), (0x16b44, 0x16b44), (0x16d6d, 0x16d6f), (0x16e97, 0x16e9a),
   (0x16fe2, 0x16fe2), (0x1bc9f, 0x1bc9f), (0x1da87, 0x1da8b), (0x1e5ff, 0x1e5ff),
   (0x1e95e, 0x1e95f)]

def mathSymbolRanges : Ranges :=
  [(0x2b, 0x2b), (0x3c, 0x3e), (0x7c, 0x7c), (0x7e, 0x7e), (0xac, 0xac), (0xb1, 0xb1),
   (0xd7, 0xd7), (0xf7, 0xf7), (0x3f6, 0x3f6), (0x606, 0x608), (0x2044, 0x2044), (0x2052, 0x2052),
   (0x207a, 0x207c), (0x208a, 0x208c), (0x2118, 0x2118), (0x2140, 0x2144), (0x214b, 0x214b),
   (0x2190, 0x2194), (0x219a, 0x219b), (0x21a0, 0x21a0), (0x21a3, 0x21a3), (0x21a6, 0x21a6),
   (0x21ae, 0x21ae), (0x21ce, 0x21cf), (0x21d2, 0x21d2), (0x21d4, 0x21d4), (0x21f4, 0x22ff),
   (0x2320, 0x2321), (0x237c, 0x237c), (0x239b, 0x23b3), (0x23dc, 0x23e1), (0x25b7, 0x25b7),
   (0x25c1, 0x25c1), (0x25f8, 0x25ff), (0x266f, 0x266f), (0x27c0, 0x27c4), (0x27c7, 0x27e5),
   (0x27f0, 0x27ff), (0x2900, 0x2982), (0x2999, 0x29d7), (0x29dc, 0x29fb), (0x29fe, 0x2aff),
   (0x2b30, 0x2b44), (0x2b47, 0x2b4c), (0xfb29, 0xfb29), (0xfe62, 0xfe62), (0xfe64, 0xfe66),
   (0xff0b, 0xff0b), (0xff1c, 0xff1e), (0xff5c, 0xff5c), (0xff5e, 0xff5e), (0xffe2, 0xffe2),
   (0xffe9, 0xffec), (0x10d8e, 0x10d8f), (0x1d6c1, 0x1d6c1), (0x1d6db, 0x1d6db),
   (0x1d6fb, 0x1d6fb), (0x1d715, 0x1d715), (0x1d735, 0x1d735), (0x1d74f, 0x1d74f),
   (0x1d76f, 0x1d76f), (0x1d789, 0x1d789), (0x1d7a9, 0x1d7a9), (0x1d7c3, 0x1d7c3),
   (0x1eef0, 0x1eef1)]

def currencyRanges : Ranges :=
  [(0x24, 0x24), (0xa2, 0xa5), (0x58f, 0x58f), (0x60b, 0x60b), (0x7fe, 0x7ff), (0x9f2, 0x9f3),
   (0x9fb, 0x9fb), (0xaf1, 0xaf1), (0xbf9, 0xbf9), (0xe3f, 0xe3f), (0x17db, 0x17db),
   (0x20a0, 0x20c0), (0xa838, 0xa838), (0xfdfc, 0xfdfc), (0xfe69, 0xfe69), (0xff04, 0xff04),
   (0xffe0, 0xffe1), (0xffe5, 0xffe6), (0x11fdd, 0x11fe0), (0x1e2ff, 0x1e2ff), (0x1ecb0, 0x1ecb0)]

/-- Symbols that modify others. -/
def modifierSymbolRanges : Ranges :=
  [(0x5e, 0x5e), (0x60, 0x60), (0xa8, 0xa8), (0xaf, 0xaf), (0xb4, 0xb4), (0xb8, 0xb8),
   (0x2c2, 0x2c5), (0x2d2, 0x2df), (0x2e5, 0x2eb), (0x2ed, 0x2ed), (0x2ef, 0x2ff), (0x375, 0x375),
   (0x384, 0x385), (0x888, 0x888), (0x1fbd, 0x1fbd), (0x1fbf, 0x1fc1), (0x1fcd, 0x1fcf),
   (0x1fdd, 0x1fdf), (0x1fed, 0x1fef), (0x1ffd, 0x1ffe), (0x309b, 0x309c), (0xa700, 0xa716),
   (0xa720, 0xa721), (0xa789, 0xa78a), (0xab5b, 0xab5b), (0xab6a, 0xab6b), (0xfbb2, 0xfbc2),
   (0xff3e, 0xff3e), (0xff40, 0xff40), (0xffe3, 0xffe3), (0x1f3fb, 0x1f3ff)]

def otherSymbolRanges : Ranges :=
  [(0xa6, 0xa6), (0xa9, 0xa9), (0xae, 0xae), (0xb0, 0xb0), (0x482, 0x482), (0x58d, 0x58e),
   (0x60e, 0x60f), (0x6de, 0x6de), (0x6e9, 0x6e9), (0x6fd, 0x6fe), (0x7f6, 0x7f6), (0x9fa, 0x9fa),
   (0xb70, 0xb70), (0xbf3, 0xbf8), (0xbfa, 0xbfa), (0xc7f, 0xc7f), (0xd4f, 0xd4f), (0xd79, 0xd79),
   (0xf01, 0xf03), (0xf13, 0xf13), (0xf15, 0xf17), (0xf1a, 0xf1f), (0xf34, 0xf34), (0xf36, 0xf36),
   (0xf38, 0xf38), (0xfbe, 0xfc5), (0xfc7, 0xfcc), (0xfce, 0xfcf), (0xfd5, 0xfd8),
   (0x109e, 0x109f), (0x1390, 0x1399), (0x166d, 0x166d), (0x1940, 0x1940), (0x19de, 0x19ff),
   (0x1b61, 0x1b6a), (0x1b74, 0x1b7c), (0x2100, 0x2101), (0x2103, 0x2106), (0x2108, 0x2109),
   (0x2114, 0x2114), (0x2116, 0x2117), (0x211e, 0x2123), (0x2125, 0x2125), (0x2127, 0x2127),
   (0x2129, 0x2129), (0x212e, 0x212e), (0x213a, 0x213b), (0x214a, 0x214a), (0x214c, 0x214d),
   (0x214f, 0x214f), (0x218a, 0x218b), (0x2195, 0x2199), (0x219c, 0x219f), (0x21a1, 0x21a2),
   (0x21a4, 0x21a5), (0x21a7, 0x21ad), (0x21af, 0x21cd), (0x21d0, 0x21d1), (0x21d3, 0x21d3),
   (0x21d5, 0x21f3), (0x2300, 0x2307), (0x230c, 0x231f), (0x2322, 0x2328), (0x232b, 0x237b),
   (0x237d, 0x239a), (0x23b4, 0x23db), (0x23e2, 0x2429), (0x2440, 0x244a), (0x249c, 0x24e9),
   (0x2500, 0x25b6), (0x25b8, 0x25c0), (0x25c2, 0x25f7), (0x2600, 0x266e), (0x2670, 0x2767),
   (0x2794, 0x27bf), (0x2800, 0x28ff), (0x2b00, 0x2b2f), (0x2b45, 0x2b46), (0x2b4d, 0x2b73),
   (0x2b76, 0x2b95), (0x2b97, 0x2bff), (0x2ce5, 0x2cea), (0x2e50, 0x2e51), (0x2e80, 0x2e99),
   (0x2e9b, 0x2ef3), (0x2f00, 0x2fd5), (0x2ff0, 0x2fff), (0x3004, 0x3004), (0x3012, 0x3013),
   (0x3020, 0x3020), (0x3036, 0x3037), (0x303e, 0x303f), (0x3190, 0x3191), (0x3196, 0x319f),
   (0x31c0, 0x31e5), (0x31ef, 0x31ef), (0x3200, 0x321e), (0x322a, 0x3247), (0x3250, 0x3250),
   (0x3260, 0x327f), (0x328a, 0x32b0), (0x32c0, 0x33ff), (0x4dc0, 0x4dff), (0xa490, 0xa4c6),
   (0xa828, 0xa82b), (0xa836, 0xa837), (0xa839, 0xa839), (0xaa77, 0xaa79), (0xfd40, 0xfd4f),
   (0xfdcf, 0xfdcf), (0xfdfd, 0xfdff), (0xffe4, 0xffe4), (0xffe8, 0xffe8), (0xffed, 0xffee),
   (0xfffc, 0xfffd), (0x10137, 0x1013f), (0x10179, 0x10189), (0x1018c, 0x1018e),
   (0x10190, 0x1019c), (0x101a0, 0x101a0), (0x101d0, 0x101fc), (0x10877, 0x10878),
   (0x10ac8, 0x10ac8), (0x1173f, 0x1173f), (0x11fd5, 0x11fdc), (0x11fe1, 0x11ff1),
   (0x16b3c, 0x16b3f), (0x16b45, 0x16b45), (0x1bc9c, 0x1bc9c), (0x1cc00, 0x1ccef),
   (0x1cd00, 0x1ceb3), (0x1cf50, 0x1cfc3), (0x1d000, 0x1d0f5), (0x1d100, 0x1d126),
   (0x1d129, 0x1d164), (0x1d16a, 0x1d16c), (0x1d183, 0x1d184), (0x1d18c, 0x1d1a9),
   (0x1d1ae, 0x1d1ea), (0x1d200, 0x1d241), (0x1d245, 0x1d245), (0x1d300, 0x1d356),
   (0x1d800, 0x1d9ff), (0x1da37, 0x1da3a), (0x1da6d, 0x1da74), (0x1da76, 0x1da83),
   (0x1da85, 0x1da86), (0x1e14f, 0x1e14f), (0x1ecac, 0x1ecac), (0x1ed2e, 0x1ed2e),
   (0x1f000, 0x1f02b), (0x1f030, 0x1f093), (0x1f0a0, 0x1f0ae), (0x1f0b1, 0x1f0bf),
   (0x1f0c1, 0x1f0cf), (0x1f0d1, 0x1f0f5), (0x1f10d, 0x1f1ad), (0x1f1e6, 0x1f202),
   (0x1f210, 0x1f23b), (0x1f240, 0x1f248), (0x1f250, 0x1f251), (0x1f260, 0x1f265),
   (0x1f300, 0x1f3fa), (0x1f400, 0x1f6d7), (0x1f6dc, 0x1f6ec), (0x1f6f0, 0x1f6fc),
   (0x1f700, 0x1f776), (0x1f77b, 0x1f7d9), (0x1f7e0, 0x1f7eb), (0x1f7f0, 0x1f7f0),
   (0x1f800, 0x1f80b), (0x1f810, 0x1f847), (0x1f850, 0x1f859), (0x1f860, 0x1f887),
   (0x1f890, 0x1f8ad), (0x1f8b0, 0x1f8bb), (0x1f8c0, 0x1f8c1), (0x1f900, 0x1fa53),
   (0x1fa60, 0x1fa6d), (0x1fa70, 0x1fa7c), (0x1fa80, 0x1fa89), (0x1fa8f, 0x1fac6),
   (0x1face, 0x1fadc), (0x1fadf, 0x1fae9), (0x1faf0, 0x1faf8), (0x1fb00, 0x1fb92),
   (0x1fb94, 0x1fbef)]

def spaceRanges : Ranges :=
  [(0x20, 0x20), (0xa0, 0xa0), (0x1680, 0x1680), (0x2000, 0x200a), (0x202f, 0x202f),
   (0x205f, 0x205f), (0x3000, 0x3000)]

/-- Characters that control the layout of text. -/
def formatRanges : Ranges :=
  [(0xad, 0xad), (0x600, 0x605), (0x61c, 0x61c), (0x6dd, 0x6dd), (0x70f, 0x70f), (0x890, 0x891),
   (0x8e2, 0x8e2), (0x180e, 0x180e), (0x200b, 0x200f), (0x202a, 0x202e), (0x2060, 0x2064),
   (0x2066, 0x206f), (0xfeff, 0xfeff), (0xfff9, 0xfffb), (0x110bd, 0x110bd), (0x110cd, 0x110cd),
   (0x13430, 0x1343f), (0x1bca0, 0x1bca3), (0x1d173, 0x1d17a), (0xe0001, 0xe0001),
   (0xe0020, 0xe007f)]

/-- Symbols that count as letters: those in circles and squares. -/
def letterSymbolRanges : Ranges :=
  [(0x24b6, 0x24e9), (0x1f130, 0x1f149), (0x1f150, 0x1f169), (0x1f170, 0x1f189)]

/-- Lowercase letters and what is used like them. -/
def otherLowercaseRanges : Ranges :=
  [(0xaa, 0xaa), (0xba, 0xba), (0x2b0, 0x2b8), (0x2c0, 0x2c1), (0x2e0, 0x2e4), (0x345, 0x345),
   (0x37a, 0x37a), (0x10fc, 0x10fc), (0x1d2c, 0x1d6a), (0x1d78, 0x1d78), (0x1d9b, 0x1dbf),
   (0x2071, 0x2071), (0x207f, 0x207f), (0x2090, 0x209c), (0x2170, 0x217f), (0x24d0, 0x24e9),
   (0x2c7c, 0x2c7d), (0xa69c, 0xa69d), (0xa770, 0xa770), (0xa7f2, 0xa7f4), (0xa7f8, 0xa7f9),
   (0xab5c, 0xab5f), (0xab69, 0xab69), (0x10780, 0x10780), (0x10783, 0x10785), (0x10787, 0x107b0),
   (0x107b2, 0x107ba), (0x1e030, 0x1e06d)]

/-- Uppercase numerals and symbols. -/
def otherUppercaseRanges : Ranges :=
  [(0x2160, 0x216f), (0x24b6, 0x24cf), (0x1f130, 0x1f149), (0x1f150, 0x1f169), (0x1f170, 0x1f189)]

def uppercaseRanges : Ranges := .ofRuns uppercaseRuns

def lowercaseRanges : Ranges := .ofRuns lowercaseRuns

/-- Letters and what is used like them: what belongs to words and is neither a digit nor a mark that
only goes with letters. -/
def alphabeticRanges : Ranges :=
  wordRanges.diff (digitRanges.union wordMarkRanges)

/-- Letters without case: what is left of the alphabetic characters without all others. -/
def otherLetterRanges : Ranges :=
  alphabeticRanges.diff (.unions [uppercaseRanges, lowercaseRanges, titlecaseRanges,
    modifierLetterRanges, letterNumberRanges, nonspacingMarkRanges, spacingMarkRanges,
    letterSymbolRanges])

def controlRanges : Ranges := [(0x0, 0x1f), (0x7f, 0x9f)]

/-- Characters whose meaning is a private matter. -/
def privateRanges : Ranges := [(0xe000, 0xf8ff), (0xf0000, 0xffffd), (0x100000, 0x10fffd)]

/-- The categories of characters by their short names. -/
def categories : List (String × Ranges) :=
  [("lu", uppercaseRanges), ("ll", lowercaseRanges), ("lt", titlecaseRanges),
   ("lm", modifierLetterRanges), ("lo", otherLetterRanges), ("mn", nonspacingMarkRanges),
   ("mc", spacingMarkRanges), ("me", enclosingMarkRanges), ("nd", digitRanges),
   ("nl", letterNumberRanges), ("no", otherNumeralRanges), ("pc", connectorRanges),
   ("pd", dashRanges), ("ps", openingRanges), ("pe", closingRanges), ("pi", initialQuoteRanges),
   ("pf", finalQuoteRanges), ("po", otherPunctuationRanges), ("sm", mathSymbolRanges),
   ("sc", currencyRanges), ("sk", modifierSymbolRanges), ("so", otherSymbolRanges),
   ("zs", spaceRanges), ("zl", [(0x2028, 0x2028)]), ("zp", [(0x2029, 0x2029)]),
   ("cc", controlRanges), ("cf", formatRanges), ("co", privateRanges)]

/-- The characters of all categories whose short names begin with a letter. -/
def majorCategory (letter : Char) : Ranges :=
  .unions ((categories.filter fun (name, _) => name.front = letter).map (·.2))

/-- The characters that are in some category. -/
def assignedRanges : Ranges :=
  .unions (categories.map (·.2))

end GrammarMachine.Text
