import Strided.Text.Letter

/-!
# Identifiers

An identifier begins with a letter or an underscore and goes on with these, digits and marks.  Some
signs count as letters here and a few letters do not: `exceptionalRuns` holds both.
-/

namespace Strided.Text

/-- Runs of the characters that are letters or may begin an identifier, but not both. -/
def exceptionalRuns : List (Nat × Nat × Nat) :=
  [(0x5f, 0x5f, 1), (0x37a, 0x37a, 1), (0xe33, 0xe33, 1), (0xeb3, 0xeb3, 1), (0x16ee, 0x16f0, 1),
   (0x1885, 0x1886, 1), (0x2118, 0x2118, 1), (0x212e, 0x212e, 1), (0x2160, 0x2182, 1),
   (0x2185, 0x2188, 1), (0x2e2f, 0x2e2f, 1), (0x3007, 0x3007, 1), (0x3021, 0x3029, 1),
   (0x3038, 0x303a, 1), (0xa6e6, 0xa6ef, 1), (0xfc5e, 0xfc63, 1), (0xfdfa, 0xfdfb, 1),
   (0xfe70, 0xfe7e, 2), (0xff9e, 0xff9f, 1), (0x10140, 0x10174, 1), (0x10341, 0x10341, 1),
   (0x1034a, 0x1034a, 1), (0x103d1, 0x103d5, 1), (0x12400, 0x1246e, 1)]

def startsIdentifier (c : Char) : Bool := isLetter c != inRuns exceptionalRuns c

/-- Runs of the characters that may stand in an identifier but not begin one. -/
def continuingRuns : List (Nat × Nat × Nat) :=
  [(0x30, 0x39, 1), (0xb7, 0xb7, 1), (0x300, 0x36f, 1), (0x387, 0x387, 1), (0x483, 0x487, 1),
   (0x591, 0x5bd, 1), (0x5bf, 0x5c1, 2), (0x5c2, 0x5c4, 2), (0x5c5, 0x5c7, 2), (0x610, 0x61a, 1),
   (0x64b, 0x669, 1), (0x670, 0x670, 1), (0x6d6, 0x6dc, 1), (0x6df, 0x6e4, 1), (0x6e7, 0x6e8, 1),
   (0x6ea, 0x6ed, 1), (0x6f0, 0x6f9, 1), (0x711, 0x711, 1), (0x730, 0x74a, 1), (0x7a6, 0x7b0, 1),
   (0x7c0, 0x7c9, 1), (0x7eb, 0x7f3, 1), (0x7fd, 0x7fd, 1), (0x816, 0x819, 1), (0x81b, 0x823, 1),
   (0x825, 0x827, 1), (0x829, 0x82d, 1), (0x859, 0x85b, 1), (0x898, 0x89f, 1), (0x8ca, 0x8e1, 1),
   (0x8e3, 0x903, 1), (0x93a, 0x93c, 1), (0x93e, 0x94f, 1), (0x951, 0x957, 1), (0x962, 0x963, 1),
   (0x966, 0x96f, 1), (0x981, 0x983, 1), (0x9bc, 0x9be, 2), (0x9bf, 0x9c4, 1), (0x9c7, 0x9c8, 1),
   (0x9cb, 0x9cd, 1), (0x9d7, 0x9d7, 1), (0x9e2, 0x9e3, 1), (0x9e6, 0x9ef, 1), (0x9fe, 0x9fe, 1),
   (0xa01, 0xa03, 1), (0xa3c, 0xa3e, 2), (0xa3f, 0xa42, 1), (0xa47, 0xa48, 1), (0xa4b, 0xa4d, 1),
   (0xa51, 0xa51, 1), (0xa66, 0xa71, 1), (0xa75, 0xa75, 1), (0xa81, 0xa83, 1), (0xabc, 0xabe, 2),
   (0xabf, 0xac5, 1), (0xac7, 0xac9, 1), (0xacb, 0xacd, 1), (0xae2, 0xae3, 1), (0xae6, 0xaef, 1),
   (0xafa, 0xaff, 1), (0xb01, 0xb03, 1), (0xb3c, 0xb3e, 2), (0xb3f, 0xb44, 1), (0xb47, 0xb48, 1),
   (0xb4b, 0xb4d, 1), (0xb55, 0xb57, 1), (0xb62, 0xb63, 1), (0xb66, 0xb6f, 1), (0xb82, 0xb82, 1),
   (0xbbe, 0xbc2, 1), (0xbc6, 0xbc8, 1), (0xbca, 0xbcd, 1), (0xbd7, 0xbd7, 1), (0xbe6, 0xbef, 1),
   (0xc00, 0xc04, 1), (0xc3c, 0xc3e, 2), (0xc3f, 0xc44, 1), (0xc46, 0xc48, 1), (0xc4a, 0xc4d, 1),
   (0xc55, 0xc56, 1), (0xc62, 0xc63, 1), (0xc66, 0xc6f, 1), (0xc81, 0xc83, 1), (0xcbc, 0xcbe, 2),
   (0xcbf, 0xcc4, 1), (0xcc6, 0xcc8, 1), (0xcca, 0xccd, 1), (0xcd5, 0xcd6, 1), (0xce2, 0xce3, 1),
   (0xce6, 0xcef, 1), (0xd00, 0xd03, 1), (0xd3b, 0xd3c, 1), (0xd3e, 0xd44, 1), (0xd46, 0xd48, 1),
   (0xd4a, 0xd4d, 1), (0xd57, 0xd57, 1), (0xd62, 0xd63, 1), (0xd66, 0xd6f, 1), (0xd81, 0xd83, 1),
   (0xdca, 0xdca, 1), (0xdcf, 0xdd4, 1), (0xdd6, 0xdd8, 2), (0xdd9, 0xddf, 1), (0xde6, 0xdef, 1),
   (0xdf2, 0xdf3, 1), (0xe31, 0xe33, 2), (0xe34, 0xe3a, 1), (0xe47, 0xe4e, 1), (0xe50, 0xe59, 1),
   (0xeb1, 0xeb3, 2), (0xeb4, 0xebc, 1), (0xec8, 0xecd, 1), (0xed0, 0xed9, 1), (0xf18, 0xf19, 1),
   (0xf20, 0xf29, 1), (0xf35, 0xf39, 2), (0xf3e, 0xf3f, 1), (0xf71, 0xf84, 1), (0xf86, 0xf87, 1),
   (0xf8d, 0xf97, 1), (0xf99, 0xfbc, 1), (0xfc6, 0xfc6, 1), (0x102b, 0x103e, 1),
   (0x1040, 0x1049, 1), (0x1056, 0x1059, 1), (0x105e, 0x1060, 1), (0x1062, 0x1064, 1),
   (0x1067, 0x106d, 1), (0x1071, 0x1074, 1), (0x1082, 0x108d, 1), (0x108f, 0x109d, 1),
   (0x135d, 0x135f, 1), (0x1369, 0x1371, 1), (0x1712, 0x1715, 1), (0x1732, 0x1734, 1),
   (0x1752, 0x1753, 1), (0x1772, 0x1773, 1), (0x17b4, 0x17d3, 1), (0x17dd, 0x17dd, 1),
   (0x17e0, 0x17e9, 1), (0x180b, 0x180d, 1), (0x180f, 0x1819, 1), (0x18a9, 0x18a9, 1),
   (0x1920, 0x192b, 1), (0x1930, 0x193b, 1), (0x1946, 0x194f, 1), (0x19d0, 0x19da, 1),
   (0x1a17, 0x1a1b, 1), (0x1a55, 0x1a5e, 1), (0x1a60, 0x1a7c, 1), (0x1a7f, 0x1a89, 1),
   (0x1a90, 0x1a99, 1), (0x1ab0, 0x1abd, 1), (0x1abf, 0x1ace, 1), (0x1b00, 0x1b04, 1),
   (0x1b34, 0x1b44, 1), (0x1b50, 0x1b59, 1), (0x1b6b, 0x1b73, 1), (0x1b80, 0x1b82, 1),
   (0x1ba1, 0x1bad, 1), (0x1bb0, 0x1bb9, 1), (0x1be6, 0x1bf3, 1), (0x1c24, 0x1c37, 1),
   (0x1c40, 0x1c49, 1), (0x1c50, 0x1c59, 1), (0x1cd0, 0x1cd2, 1), (0x1cd4, 0x1ce8, 1),
   (0x1ced, 0x1ced, 1), (0x1cf4, 0x1cf4, 1), (0x1cf7, 0x1cf9, 1), (0x1dc0, 0x1dff, 1),
   (0x203f, 0x2040, 1), (0x2054, 0x2054, 1), (0x20d0, 0x20dc, 1), (0x20e1, 0x20e1, 1),
   (0x20e5, 0x20f0, 1), (0x2cef, 0x2cf1, 1), (0x2d7f, 0x2d7f, 1), (0x2de0, 0x2dff, 1),
   (0x302a, 0x302f, 1), (0x3099, 0x309a, 1), (0xa620, 0xa629, 1), (0xa66f, 0xa66f, 1),
   (0xa674, 0xa67d, 1), (0xa69e, 0xa69f, 1), (0xa6f0, 0xa6f1, 1), (0xa802, 0xa802, 1),
   (0xa806, 0xa806, 1), (0xa80b, 0xa80b, 1), (0xa823, 0xa827, 1), (0xa82c, 0xa82c, 1),
   (0xa880, 0xa881, 1), (0xa8b4, 0xa8c5, 1), (0xa8d0, 0xa8d9, 1), (0xa8e0, 0xa8f1, 1),
   (0xa8ff, 0xa909, 1), (0xa926, 0xa92d, 1), (0xa947, 0xa953, 1), (0xa980, 0xa983, 1),
   (0xa9b3, 0xa9c0, 1), (0xa9d0, 0xa9d9, 1), (0xa9e5, 0xa9e5, 1), (0xa9f0, 0xa9f9, 1),
   (0xaa29, 0xaa36, 1), (0xaa43, 0xaa43, 1), (0xaa4c, 0xaa4d, 1), (0xaa50, 0xaa59, 1),
   (0xaa7b, 0xaa7d, 1), (0xaab0, 0xaab2, 2), (0xaab3, 0xaab4, 1), (0xaab7, 0xaab8, 1),
   (0xaabe, 0xaabf, 1), (0xaac1, 0xaac1, 1), (0xaaeb, 0xaaef, 1), (0xaaf5, 0xaaf6, 1),
   (0xabe3, 0xabea, 1), (0xabec, 0xabed, 1), (0xabf0, 0xabf9, 1), (0xfb1e, 0xfb1e, 1),
   (0xfe00, 0xfe0f, 1), (0xfe20, 0xfe2f, 1), (0xfe33, 0xfe34, 1), (0xfe4d, 0xfe4f, 1),
   (0xff10, 0xff19, 1), (0xff3f, 0xff3f, 1), (0xff9e, 0xff9f, 1), (0x101fd, 0x101fd, 1),
   (0x102e0, 0x102e0, 1), (0x10376, 0x1037a, 1), (0x104a0, 0x104a9, 1), (0x10a01, 0x10a03, 1),
   (0x10a05, 0x10a06, 1), (0x10a0c, 0x10a0f, 1), (0x10a38, 0x10a3a, 1), (0x10a3f, 0x10a3f, 1),
   (0x10ae5, 0x10ae6, 1), (0x10d24, 0x10d27, 1), (0x10d30, 0x10d39, 1), (0x10eab, 0x10eac, 1),
   (0x10f46, 0x10f50, 1), (0x10f82, 0x10f85, 1), (0x11000, 0x11002, 1), (0x11038, 0x11046, 1),
   (0x11066, 0x11070, 1), (0x11073, 0x11074, 1), (0x1107f, 0x11082, 1), (0x110b0, 0x110ba, 1),
   (0x110c2, 0x110c2, 1), (0x110f0, 0x110f9, 1), (0x11100, 0x11102, 1), (0x11127, 0x11134, 1),
   (0x11136, 0x1113f, 1), (0x11145, 0x11146, 1), (0x11173, 0x11173, 1), (0x11180, 0x11182, 1),
   (0x111b3, 0x111c0, 1), (0x111c9, 0x111cc, 1), (0x111ce, 0x111d9, 1), (0x1122c, 0x11237, 1),
   (0x1123e, 0x1123e, 1), (0x112df, 0x112ea, 1), (0x112f0, 0x112f9, 1), (0x11300, 0x11303, 1),
   (0x1133b, 0x1133c, 1), (0x1133e, 0x11344, 1), (0x11347, 0x11348, 1), (0x1134b, 0x1134d, 1),
   (0x11357, 0x11357, 1), (0x11362, 0x11363, 1), (0x11366, 0x1136c, 1), (0x11370, 0x11374, 1),
   (0x11435, 0x11446, 1), (0x11450, 0x11459, 1), (0x1145e, 0x1145e, 1), (0x114b0, 0x114c3, 1),
   (0x114d0, 0x114d9, 1), (0x115af, 0x115b5, 1), (0x115b8, 0x115c0, 1), (0x115dc, 0x115dd, 1),
   (0x11630, 0x11640, 1), (0x11650, 0x11659, 1), (0x116ab, 0x116b7, 1), (0x116c0, 0x116c9, 1),
   (0x1171d, 0x1172b, 1), (0x11730, 0x11739, 1), (0x1182c, 0x1183a, 1), (0x118e0, 0x118e9, 1),
   (0x11930, 0x11935, 1), (0x11937, 0x11938, 1), (0x1193b, 0x1193e, 1), (0x11940, 0x11942, 2),
   (0x11943, 0x11943, 1), (0x11950, 0x11959, 1), (0x119d1, 0x119d7, 1), (0x119da, 0x119e0, 1),
   (0x119e4, 0x119e4, 1), (0x11a01, 0x11a0a, 1), (0x11a33, 0x11a39, 1), (0x11a3b, 0x11a3e, 1),
   (0x11a47, 0x11a47, 1), (0x11a51, 0x11a5b, 1), (0x11a8a, 0x11a99, 1), (0x11c2f, 0x11c36, 1),
   (0x11c38, 0x11c3f, 1), (0x11c50, 0x11c59, 1), (0x11c92, 0x11ca7, 1), (0x11ca9, 0x11cb6, 1),
   (0x11d31, 0x11d36, 1), (0x11d3a, 0x11d3c, 2), (0x11d3d, 0x11d3f, 2), (0x11d40, 0x11d45, 1),
   (0x11d47, 0x11d47, 1), (0x11d50, 0x11d59, 1), (0x11d8a, 0x11d8e, 1), (0x11d90, 0x11d91, 1),
   (0x11d93, 0x11d97, 1), (0x11da0, 0x11da9, 1), (0x11ef3, 0x11ef6, 1), (0x16a60, 0x16a69, 1),
   (0x16ac0, 0x16ac9, 1), (0x16af0, 0x16af4, 1), (0x16b30, 0x16b36, 1), (0x16b50, 0x16b59, 1),
   (0x16f4f, 0x16f51, 2), (0x16f52, 0x16f87, 1), (0x16f8f, 0x16f92, 1), (0x16fe4, 0x16fe4, 1),
   (0x16ff0, 0x16ff1, 1), (0x1bc9d, 0x1bc9e, 1), (0x1cf00, 0x1cf2d, 1), (0x1cf30, 0x1cf46, 1),
   (0x1d165, 0x1d169, 1), (0x1d16d, 0x1d172, 1), (0x1d17b, 0x1d182, 1), (0x1d185, 0x1d18b, 1),
   (0x1d1aa, 0x1d1ad, 1), (0x1d242, 0x1d244, 1), (0x1d7ce, 0x1d7ff, 1), (0x1da00, 0x1da36, 1),
   (0x1da3b, 0x1da6c, 1), (0x1da75, 0x1da75, 1), (0x1da84, 0x1da84, 1), (0x1da9b, 0x1da9f, 1),
   (0x1daa1, 0x1daaf, 1), (0x1e000, 0x1e006, 1), (0x1e008, 0x1e018, 1), (0x1e01b, 0x1e021, 1),
   (0x1e023, 0x1e024, 1), (0x1e026, 0x1e02a, 1), (0x1e130, 0x1e136, 1), (0x1e140, 0x1e149, 1),
   (0x1e2ae, 0x1e2ae, 1), (0x1e2ec, 0x1e2f9, 1), (0x1e8d0, 0x1e8d6, 1), (0x1e944, 0x1e94a, 1),
   (0x1e950, 0x1e959, 1), (0x1fbf0, 0x1fbf9, 1), (0xe0100, 0xe01ef, 1)]

def continuesIdentifier (c : Char) : Bool := startsIdentifier c || inRuns continuingRuns c

def isIdentifier : List Char → Bool
  | [] => false
  | c :: rest => startsIdentifier c && rest.all continuesIdentifier

end Strided.Text
