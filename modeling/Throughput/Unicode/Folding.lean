import Throughput.Unicode.CharSet

/-! Characters that differ in case only.

Each class of such characters is known by its first member. The table says how far before a
character that member stands, for progressions of characters at once. -/

namespace Throughput.Unicode

/-- Start, length and step of a progression of characters, and how far before each of them the
first of its class is. -/
def foldings : List (Nat × Nat × Nat × Nat) :=
  [(0x61, 26, 1, 32), (0xe0, 23, 1, 32), (0xf8, 7, 1, 32), (0x101, 24, 2, 1), (0x133, 3, 2, 1),
   (0x13a, 8, 2, 1), (0x14b, 23, 2, 1), (0x178, 1, 1, 121), (0x17a, 3, 2, 1), (0x17f, 1, 1, 300),
   (0x183, 2, 2, 1), (0x188, 1, 1, 1), (0x18c, 1, 1, 1), (0x192, 1, 1, 1), (0x199, 1, 1, 1),
   (0x1a1, 3, 2, 1), (0x1a8, 1, 1, 1), (0x1ad, 1, 1, 1), (0x1b0, 1, 1, 1), (0x1b4, 2, 2, 1),
   (0x1b9, 1, 1, 1), (0x1bd, 1, 1, 1), (0x1c5, 1, 1, 1), (0x1c6, 1, 1, 2), (0x1c8, 1, 1, 1),
   (0x1c9, 1, 1, 2), (0x1cb, 1, 1, 1), (0x1cc, 1, 1, 2), (0x1ce, 8, 2, 1), (0x1dd, 1, 1, 79),
   (0x1df, 9, 2, 1), (0x1f2, 1, 1, 1), (0x1f3, 1, 1, 2), (0x1f5, 1, 1, 1), (0x1f6, 1, 1, 97),
   (0x1f7, 1, 1, 56), (0x1f9, 20, 2, 1), (0x220, 1, 1, 130), (0x223, 9, 2, 1), (0x23c, 1, 1, 1),
   (0x23d, 1, 1, 163), (0x242, 1, 1, 1), (0x243, 1, 1, 195), (0x247, 5, 2, 1), (0x253, 1, 1, 210),
   (0x254, 1, 1, 206), (0x256, 2, 1, 205), (0x259, 1, 1, 202), (0x25b, 1, 1, 203),
   (0x260, 1, 1, 205), (0x263, 1, 1, 207), (0x268, 1, 1, 209), (0x269, 1, 1, 211),
   (0x26f, 1, 1, 211), (0x272, 1, 1, 213), (0x275, 1, 1, 214), (0x280, 1, 1, 218),
   (0x283, 1, 1, 218), (0x288, 1, 1, 218), (0x289, 1, 1, 69), (0x28a, 2, 1, 217), (0x28c, 1, 1, 71),
   (0x292, 1, 1, 219), (0x371, 2, 2, 1), (0x377, 1, 1, 1), (0x399, 1, 1, 84), (0x39c, 1, 1, 743),
   (0x3ac, 1, 1, 38), (0x3ad, 3, 1, 37), (0x3b1, 8, 1, 32), (0x3b9, 1, 1, 116), (0x3ba, 2, 1, 32),
   (0x3bc, 1, 1, 775), (0x3bd, 8, 2, 32), (0x3be, 2, 2, 32), (0x3c2, 1, 1, 31), (0x3c4, 4, 2, 32),
   (0x3cc, 1, 1, 64), (0x3cd, 2, 1, 63), (0x3d0, 1, 1, 62), (0x3d1, 1, 1, 57), (0x3d5, 1, 1, 47),
   (0x3d6, 1, 1, 54), (0x3d7, 1, 1, 8), (0x3d9, 12, 2, 1), (0x3f0, 1, 1, 86), (0x3f1, 1, 1, 80),
   (0x3f3, 1, 1, 116), (0x3f4, 1, 1, 92), (0x3f5, 1, 1, 96), (0x3f8, 1, 1, 1), (0x3f9, 1, 1, 7),
   (0x3fb, 1, 1, 1), (0x3fd, 3, 1, 130), (0x430, 32, 1, 32), (0x450, 16, 1, 80), (0x461, 17, 2, 1),
   (0x48b, 27, 2, 1), (0x4c2, 7, 2, 1), (0x4cf, 1, 1, 15), (0x4d1, 48, 2, 1), (0x561, 38, 1, 48),
   (0x13f8, 6, 1, 8), (0x1c80, 1, 1, 6254), (0x1c81, 1, 1, 6253), (0x1c82, 1, 1, 6244),
   (0x1c83, 2, 1, 6242), (0x1c85, 1, 1, 6243), (0x1c86, 1, 1, 6236), (0x1c87, 1, 1, 6181),
   (0x1c8a, 1, 1, 1), (0x1c90, 43, 1, 3008), (0x1cbd, 3, 1, 3008), (0x1e01, 75, 2, 1),
   (0x1e9b, 1, 1, 59), (0x1e9e, 1, 1, 7615), (0x1ea1, 48, 2, 1), (0x1f08, 8, 1, 8),
   (0x1f18, 6, 1, 8), (0x1f28, 8, 1, 8), (0x1f38, 8, 1, 8), (0x1f48, 6, 1, 8), (0x1f59, 4, 2, 8),
   (0x1f68, 8, 1, 8), (0x1f88, 8, 1, 8), (0x1f98, 8, 1, 8), (0x1fa8, 8, 1, 8), (0x1fb8, 2, 1, 8),
   (0x1fba, 2, 1, 74), (0x1fbc, 1, 1, 9), (0x1fbe, 1, 1, 7289), (0x1fc8, 4, 1, 86),
   (0x1fcc, 1, 1, 9), (0x1fd3, 1, 1, 7235), (0x1fd8, 2, 1, 8), (0x1fda, 2, 1, 100),
   (0x1fe3, 1, 1, 7219), (0x1fe8, 2, 1, 8), (0x1fea, 2, 1, 112), (0x1fec, 1, 1, 7),
   (0x1ff8, 2, 1, 128), (0x1ffa, 2, 1, 126), (0x1ffc, 1, 1, 9), (0x2126, 1, 1, 7549),
   (0x212a, 1, 1, 8415), (0x212b, 1, 1, 8294), (0x214e, 1, 1, 28), (0x2170, 16, 1, 16),
   (0x2184, 1, 1, 1), (0x24d0, 26, 1, 26), (0x2c30, 48, 1, 48), (0x2c61, 1, 1, 1),
   (0x2c62, 1, 1, 10743), (0x2c63, 1, 1, 3814), (0x2c64, 1, 1, 10727), (0x2c65, 1, 1, 10795),
   (0x2c66, 1, 1, 10792), (0x2c68, 3, 2, 1), (0x2c6d, 1, 1, 10780), (0x2c6e, 1, 1, 10749),
   (0x2c6f, 1, 1, 10783), (0x2c70, 1, 1, 10782), (0x2c73, 1, 1, 1), (0x2c76, 1, 1, 1),
   (0x2c7e, 2, 1, 10815), (0x2c81, 50, 2, 1), (0x2cec, 2, 2, 1), (0x2cf3, 1, 1, 1),
   (0x2d00, 38, 1, 7264), (0x2d27, 1, 1, 7264), (0x2d2d, 1, 1, 7264), (0xa641, 5, 2, 1),
   (0xa64a, 1, 1, 35266), (0xa64b, 1, 1, 35267), (0xa64d, 17, 2, 1), (0xa681, 14, 2, 1),
   (0xa723, 7, 2, 1), (0xa733, 31, 2, 1), (0xa77a, 2, 2, 1), (0xa77d, 1, 1, 35332),
   (0xa77f, 5, 2, 1), (0xa78c, 1, 1, 1), (0xa78d, 1, 1, 42280), (0xa791, 2, 2, 1),
   (0xa797, 10, 2, 1), (0xa7aa, 1, 1, 42308), (0xa7ab, 1, 1, 42319), (0xa7ac, 1, 1, 42315),
   (0xa7ad, 1, 1, 42305), (0xa7ae, 1, 1, 42308), (0xa7b0, 1, 1, 42258), (0xa7b1, 1, 1, 42282),
   (0xa7b2, 1, 1, 42261), (0xa7b5, 8, 2, 1), (0xa7c4, 1, 1, 48), (0xa7c5, 1, 1, 42307),
   (0xa7c6, 1, 1, 35384), (0xa7c8, 2, 2, 1), (0xa7cb, 1, 1, 42343), (0xa7cd, 8, 2, 1),
   (0xa7dc, 1, 1, 42561), (0xa7f6, 1, 1, 1), (0xab53, 1, 1, 928), (0xab70, 80, 1, 38864),
   (0xfb06, 1, 1, 1), (0xff41, 26, 1, 32), (0x10428, 40, 1, 40), (0x104d8, 36, 1, 40),
   (0x10597, 19, 2, 39), (0x10598, 5, 2, 39), (0x105a4, 7, 2, 39), (0x105b4, 3, 2, 39),
   (0x105bc, 1, 1, 39), (0x10cc0, 51, 1, 64), (0x10d70, 22, 1, 32), (0x118c0, 32, 1, 32),
   (0x16e60, 32, 1, 32), (0x16ebb, 25, 1, 27), (0x1e922, 34, 1, 34)]

def foldingPairs : List (Nat × Nat) :=
  foldings.flatMap fun (start, count, step, distance) =>
    (List.range count).map fun index =>
      let code := start + index * step
      (code, code - distance)

def withCases (set : CharSet) : CharSet :=
  let add (set : CharSet) (codes : List Nat) : CharSet :=
    codes.foldl (fun set code => set.union (.range code code)) set
  let firsts := foldingPairs.filterMap fun (code, first) =>
    if set.containsCode code then some first else none
  let set := add set firsts
  add set (foldingPairs.filterMap fun (code, first) =>
    if set.containsCode first then some code else none)

end Throughput.Unicode
