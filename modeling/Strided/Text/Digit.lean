import Strided.Text.Letter

/-!
# Digits

The decimal digits of Unicode (general category Nd) come in runs of ten, zero to nine.  `digitZeros`
holds the zero of each run, and `digitValue?` reads the value of a digit off its distance to that
zero.  Other characters stand for digits or numbers without being part of decimal numbers.
-/

namespace Strided.Text

/-- The code points of the digits zero, one for each run of ten. -/
def digitZeros : List Nat :=
  [0x30, 0x660, 0x6f0, 0x7c0, 0x966, 0x9e6, 0xa66, 0xae6, 0xb66, 0xbe6,
   0xc66, 0xce6, 0xd66, 0xde6, 0xe50, 0xed0, 0xf20, 0x1040, 0x1090, 0x17e0,
   0x1810, 0x1946, 0x19d0, 0x1a80, 0x1a90, 0x1b50, 0x1bb0, 0x1c40, 0x1c50, 0xa620,
   0xa8d0, 0xa900, 0xa9d0, 0xa9f0, 0xaa50, 0xabf0, 0xff10, 0x104a0, 0x10d30, 0x11066,
   0x110f0, 0x11136, 0x111d0, 0x112f0, 0x11450, 0x114d0, 0x11650, 0x116c0, 0x11730, 0x118e0,
   0x11950, 0x11c50, 0x11d50, 0x11da0, 0x16a60, 0x16ac0, 0x16b50, 0x1d7ce, 0x1d7d8, 0x1d7e2,
   0x1d7ec, 0x1d7f6, 0x1e140, 0x1e2f0, 0x1e950, 0x1fbf0]

def digitValue? (c : Char) : Option Nat :=
  (digitZeros.find? fun first => first ≤ c.toNat && c.toNat < first + 10).map (c.toNat - ·)

def isDigit (c : Char) : Bool := (digitValue? c).isSome

/-- Runs of digits that no decimal numbers are written with, such as raised and circled ones. -/
def otherDigitRuns : List (Nat × Nat × Nat) :=
  [(0xb2, 0xb3, 1), (0xb9, 0xb9, 1), (0x1369, 0x1371, 1), (0x19da, 0x19da, 1),
   (0x2070, 0x2070, 1), (0x2074, 0x2079, 1), (0x2080, 0x2089, 1), (0x2460, 0x2468, 1),
   (0x2474, 0x247c, 1), (0x2488, 0x2490, 1), (0x24ea, 0x24ea, 1), (0x24f5, 0x24fd, 1),
   (0x24ff, 0x24ff, 1), (0x2776, 0x277e, 1), (0x2780, 0x2788, 1), (0x278a, 0x2792, 1),
   (0x10a40, 0x10a43, 1), (0x10e60, 0x10e68, 1), (0x11052, 0x1105a, 1), (0x1f100, 0x1f10a, 1)]

/-- Runs of characters that stand for a number and are no digits, such as fractions. -/
def numberSignRuns : List (Nat × Nat × Nat) :=
  [(0xbc, 0xbe, 1), (0x9f4, 0x9f9, 1), (0xb72, 0xb77, 1), (0xbf0, 0xbf2, 1), (0xc78, 0xc7e, 1),
   (0xd58, 0xd5e, 1), (0xd70, 0xd78, 1), (0xf2a, 0xf33, 1), (0x1372, 0x137c, 1),
   (0x16ee, 0x16f0, 1), (0x17f0, 0x17f9, 1), (0x2150, 0x2182, 1), (0x2185, 0x2189, 1),
   (0x2469, 0x2473, 1), (0x247d, 0x2487, 1), (0x2491, 0x249b, 1), (0x24eb, 0x24f4, 1),
   (0x24fe, 0x24fe, 1), (0x277f, 0x277f, 1), (0x2789, 0x2789, 1), (0x2793, 0x2793, 1),
   (0x2cfd, 0x2cfd, 1), (0x3007, 0x3007, 1), (0x3021, 0x3029, 1), (0x3038, 0x303a, 1),
   (0x3192, 0x3195, 1), (0x3220, 0x3229, 1), (0x3248, 0x324f, 1), (0x3251, 0x325f, 1),
   (0x3280, 0x3289, 1), (0x32b1, 0x32bf, 1), (0x3405, 0x3405, 1), (0x3483, 0x3483, 1),
   (0x382a, 0x382a, 1), (0x3b4d, 0x3b4d, 1), (0x4e00, 0x4e00, 1), (0x4e03, 0x4e03, 1),
   (0x4e07, 0x4e09, 2), (0x4e5d, 0x4e5d, 1), (0x4e8c, 0x4e8c, 1), (0x4e94, 0x4e96, 2),
   (0x4ebf, 0x4ec0, 1), (0x4edf, 0x4edf, 1), (0x4ee8, 0x4ee8, 1), (0x4f0d, 0x4f0d, 1),
   (0x4f70, 0x4f70, 1), (0x5104, 0x5104, 1), (0x5146, 0x5146, 1), (0x5169, 0x516d, 2),
   (0x5341, 0x5343, 2), (0x5344, 0x5345, 1), (0x534c, 0x534c, 1), (0x53c1, 0x53c4, 1),
   (0x56db, 0x56db, 1), (0x58f1, 0x58f1, 1), (0x58f9, 0x58f9, 1), (0x5e7a, 0x5e7a, 1),
   (0x5efe, 0x5eff, 1), (0x5f0c, 0x5f0e, 1), (0x5f10, 0x5f10, 1), (0x62fe, 0x62fe, 1),
   (0x634c, 0x634c, 1), (0x67d2, 0x67d2, 1), (0x6f06, 0x6f06, 1), (0x7396, 0x7396, 1),
   (0x767e, 0x767e, 1), (0x8086, 0x8086, 1), (0x842c, 0x842c, 1), (0x8cae, 0x8cae, 1),
   (0x8cb3, 0x8cb3, 1), (0x8d30, 0x8d30, 1), (0x9621, 0x9621, 1), (0x9646, 0x9646, 1),
   (0x964c, 0x964c, 1), (0x9678, 0x9678, 1), (0x96f6, 0x96f6, 1), (0xa6e6, 0xa6ef, 1),
   (0xa830, 0xa835, 1), (0xf96b, 0xf96b, 1), (0xf973, 0xf973, 1), (0xf978, 0xf978, 1),
   (0xf9b2, 0xf9b2, 1), (0xf9d1, 0xf9d3, 2), (0xf9fd, 0xf9fd, 1), (0x10107, 0x10133, 1),
   (0x10140, 0x10178, 1), (0x1018a, 0x1018b, 1), (0x102e1, 0x102fb, 1), (0x10320, 0x10323, 1),
   (0x10341, 0x10341, 1), (0x1034a, 0x1034a, 1), (0x103d1, 0x103d5, 1), (0x10858, 0x1085f, 1),
   (0x10879, 0x1087f, 1), (0x108a7, 0x108af, 1), (0x108fb, 0x108ff, 1), (0x10916, 0x1091b, 1),
   (0x109bc, 0x109bd, 1), (0x109c0, 0x109cf, 1), (0x109d2, 0x109ff, 1), (0x10a44, 0x10a48, 1),
   (0x10a7d, 0x10a7e, 1), (0x10a9d, 0x10a9f, 1), (0x10aeb, 0x10aef, 1), (0x10b58, 0x10b5f, 1),
   (0x10b78, 0x10b7f, 1), (0x10ba9, 0x10baf, 1), (0x10cfa, 0x10cff, 1), (0x10e69, 0x10e7e, 1),
   (0x10f1d, 0x10f26, 1), (0x10f51, 0x10f54, 1), (0x10fc5, 0x10fcb, 1), (0x1105b, 0x11065, 1),
   (0x111e1, 0x111f4, 1), (0x1173a, 0x1173b, 1), (0x118ea, 0x118f2, 1), (0x11c5a, 0x11c6c, 1),
   (0x11fc0, 0x11fd4, 1), (0x12400, 0x1246e, 1), (0x16b5b, 0x16b61, 1), (0x16e80, 0x16e96, 1),
   (0x1d2e0, 0x1d2f3, 1), (0x1d360, 0x1d378, 1), (0x1e8c7, 0x1e8cf, 1), (0x1ec71, 0x1ecab, 1),
   (0x1ecad, 0x1ecaf, 1), (0x1ecb1, 0x1ecb4, 1), (0x1ed01, 0x1ed2d, 1), (0x1ed2f, 0x1ed3d, 1),
   (0x1f10b, 0x1f10c, 1), (0x20001, 0x20001, 1), (0x20064, 0x20064, 1), (0x200e2, 0x200e2, 1),
   (0x20121, 0x20121, 1), (0x2092a, 0x2092a, 1), (0x20983, 0x20983, 1), (0x2098c, 0x2098c, 1),
   (0x2099c, 0x2099c, 1), (0x20aea, 0x20aea, 1), (0x20afd, 0x20afd, 1), (0x20b19, 0x20b19, 1),
   (0x22390, 0x22390, 1), (0x22998, 0x22998, 1), (0x23b1b, 0x23b1b, 1), (0x2626d, 0x2626d, 1),
   (0x2f890, 0x2f890, 1)]

/-- A character that stands for a digit. -/
def standsForDigit (c : Char) : Bool := isDigit c || inRuns otherDigitRuns c

def standsForNumber (c : Char) : Bool := standsForDigit c || inRuns numberSignRuns c

example : digitValue? '7' = some 7 := by decide
example : digitZeros.length = 66 := by decide

end Strided.Text
