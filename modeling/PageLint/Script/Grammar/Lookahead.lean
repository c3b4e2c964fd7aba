/-!
Sets of tokens that the states of the automaton tell apart. A set is a number whose binary digits
stand for the tokens, in their order.
-/
namespace PageLint.Script.Grammar

/-- Tokens after which a state makes the same move. -/
def tokenSets : List Nat :=
  [0x1ffffe7cffffffffffffe6dbffffffffff, 0x1, 0x2, 0x4, 0x8, 0x80, 0x400, 0x1000, 0x2000, 0x4000,
   0x8000, 0x20000, 0x40000, 0x80000, 0x100000, 0x200000, 0x800000, 0x4000000, 0x8000000,
   0x10000000, 0x20000000, 0x40000000, 0x80000000, 0x100000000, 0x200000000, 0x4000000000,
   0x10000000000, 0x80000000000, 0x2000000000000, 0x4000000000000, 0x20000000000000,
   0x80000000000000, 0x100000000000000, 0x800000000000000, 0x3e003000000000000000000000,
   0x4000000000000000000000, 0xc0000000000000000000000000, 0x800000800000000000000000000000000,
   0x1000000000000000000000000000, 0x3e20000000000000000000000000000,
   0x40000000000000000000000000000, 0x4000000000000000000000000000000,
   0x8000000000000000000000000000000, 0xd0000000000000000000000000000000, 0x10, 0x20,
   0x5000010c1fffff0000400590001300100, 0xc000, 0x400000000, 0x8000000000, 0x200000000000000,
   0x7fff000000000000000, 0x100, 0x200, 0x8000000000000000000, 0x20000000000000000000000000000,
   0x3e00000000000000000000000000000, 0x10000000000000000000000000000000,
   0x20000000000000000000000000000000, 0xc0000000000000000000000000000000, 0x400000000100000,
   0x400000000000, 0x5000010c1fffff0000400580001300110, 0xd0000000000000000000000000004008,
   0x400000, 0xdfe610fe0070000009a6094bfcfff6ab, 0x100000000000000000000000000200000,
   0x500000001ff8ff0000400500001200300, 0x20000000000, 0x100000000000, 0x200000000000,
   0x500000000000000000000000000, 0x600000000000000000000000000, 0x40000000000000,
   0xd0000000000000000080000000004008, 0x5000010c1fffff0000400590001200110,
   0x8000000000000000000000000000, 0x200000400000000000000000000000000,
   0x2000000000000000000000000000, 0x5000010c1fffff0000400590003300310,
   0x5000010c1fffff0000400590001300110, 0x1000000, 0x5000010c1fffff0000400590001300310,
   0xdfe610fe0070000009a6094bfcbff6ab, 0x400000000000000, 0xc000000000000000000010,
   0x1420000000000180001000000, 0x10000000000000000000, 0x20000000000000000000,
   0x1c0000000000000000000, 0x200000000000000000000, 0x400000000000000000000,
   0x800000000000000000000, 0x3000000000000000000000, 0x10000000000000000000000,
   0x3c0000000000000000000000, 0x800000000000000000000000, 0x400000000000000000000000000000000,
   0x5000000c1fffff0000000180003300310, 0x1000000000000000000000040000000000, 0x800000000000,
   0x5000000c1fffff0000400590003300310, 0xf80600000000000000a601000000401a, 0x40, 0x800,
   0xd0000000000000000000000000000008, 0x22, 0x5000010c1fffff0000400590001200100,
   0xd000000000000000008000000000400a, 0x60000000000000000000000000000, 0x400a, 0x300,
   0x400000001ff8ff0000400500001000110, 0x100000000000000000000000000000000,
   0x5000010c1fffff0000400580001200110, 0x10000000000000000080000000004008,
   0x5000010c1fffff0000400580001200100, 0x400100000, 0x1000000000000000000000000000400a, 0x4002,
   0x40000000000000000000000000000000, 0x80000000000000000000000000000000,
   0x100000000000000000000000000000, 0x100000000000000000000000000200100,
   0x4000010c1fffff0000400590001100010, 0x20000400300, 0x200000000000080,
   0x4000010c1fffff0000400590001000010, 0x28000400300, 0x5000010c1fffff0000400590001200310,
   0x500001001fffff0000000180003200310, 0x1000000000, 0x2000000000,
   0x100001000000000000000000000200300, 0x20000000100, 0x10000000000000000000008c0000000080,
   0x200000000002, 0x1000000000000, 0x5000010c1fffff0000400590403300310,
   0x80000000000000000000000000000, 0x5000000c1fffff0000000180003200310,
   0x5000000c1fffff0000400590003200310, 0x4000000000000000000000000000,
   0x5000010c1fffff0000000180003200310, 0x800000221, 0xf00600000000000000a601000000401a,
   0x5000010c1fffff0000400580001300010, 0x5000010c1fffff0000400590001200010,
   0x100000000000000000000000000200800, 0x1000000000000000008000000000400a,
   0xffe610fe0070000009a6097bfcbff7bb, 0x20000000300, 0x28003400300,
   0x100000000000000000000008003200100, 0xdfe610fe0070000009a6094bfcbef6ab, 0x10000, 0x800000000,
   0x4000010c1fffff0000400590000300110, 0x2000000, 0x4000010c1fffff0000400580000300110,
   0x4000010c1fffff0000400590000200110, 0x3000000, 0x4000010c1fffff0000400590403100090,
   0x5000010c1fffff7fff400598003300310, 0x20000400100, 0x20000400000, 0x1300000000082,
   0x5dfe610fffffff0000da6594bffbff7bb, 0x100000000000000000000008000300000,
   0xf806000000000000008601000020421a, 0xf806000000000000008601000000421a,
   0x10000000000000000000000000000, 0x500001001fe0e30000000180001200300,
   0x500001001fefff0000000180001200310, 0x500001000800030000000000000200300,
   0x500001000800020000000000000200300, 0x500001001fe0ff0000000180001200300,
   0x500001000800e30000000000000200300, 0x500001000800c30000000000000200300,
   0x500001000800830000000000000200300, 0x500001001fe3ff0000000180001200300,
   0x500001000bc0e30000000000000200300, 0x500001000800000000000000000200300,
   0x100000000000000000000000000201000, 0xf806000000000000008601000020431a, 0x200100,
   0x4000010c1fffff0000400580000100010, 0x4000010c1fffff00004005b0403700390, 0x400100,
   0xdfe610fe0070000009a6094bfc9ff6ab, 0xdfe610fe0070000009a6096bfcbff6ab, 0x1308000000082,
   0x1100000000000, 0x1700000000082, 0x200003400000000000000000000000000,
   0xf80600000000000000a641000010401a, 0x800000220, 0x8040000000000, 0x10040000000000,
   0xdfe610fe0070000009a60943fcbef48a, 0x400000001ff8ff0000400520401600300,
   0x4000010c1fffff00004005b0401700310, 0x4000000c1fffff00000001a0403700390,
   0x4000000c1fffff00004005b0403700390, 0x4000010c1fffff0000400590001300110, 0x4010000,
   0x400001001fffff00000001a0403600390, 0x1000000000000000020400600300,
   0x100000000000000000000008000301000, 0x4000000c1fffff00000001a0403600390,
   0x4000000c1fffff00004005b0403600390, 0x4000010c1fffff00000001a0403600390, 0x20400600200,
   0x4dfe610fffffff0000da6594bffbff7bb, 0x8003400000, 0x4000010c1fffff00004005b0401700390,
   0x400001001fe0e300000001a0401600300, 0x4000010c1fffff7fff4005b8403700390,
   0x400001001fefff00000001a0401600310, 0x20400600300, 0x400001000800030000000020400600300,
   0x400001000800020000000020400600300, 0x400001001fe0ff00000001a0401600300,
   0x400001000800e30000000020400600300, 0x400001000800c30000000020400600300,
   0x400001000800830000000020400600300, 0x400001001fe3ff00000001a0401600300,
   0x400001000bc0e30000000020400600300, 0x400001000800000000000020400600300,
   0x100000000000000000000000002200100, 0x1420000000000180000000000,
   0x4000010c1fffff0000400590003300310, 0x4000010c1fffff00004005b0401600310,
   0x1dfe610fe0070000009a6094bfcbff6ab, 0x5000010c1fffff0000400590003300110, 0x400100b40,
   0x4000010c1fffff0000400590003100010, 0x8002000000, 0x8000000100,
   0x400000001ff8ff0000400500401000000, 0x1000000000000000000400000080,
   0x400001001fe0e30000000180401000080, 0x400001001fefff0000000180401000090,
   0x400001000800030000000000400000080, 0x400001000800020000000000400000080,
   0x400001001fe0ff0000000180401000080, 0x400001000800e30000000000400000080,
   0x400001000800c30000000000400000080, 0x400001000800830000000000400000080,
   0x400001001fe3ff0000000180401000080, 0x400001000bc0e30000000000400000080,
   0x400001000800000000000000400000080, 0x4000010c1fffff0000400590401100090,
   0x4000010c1fffff0000400590401000090, 0x5000010c1fffff0000400590003200110,
   0x100001000000000000000000002200100, 0x4000010c1fffff0000400590000100010,
   0x4000010c1fffff0000400590000000010, 0x500001001fe0e30000000180003200100,
   0x500001001fefff0000000180003200110, 0x500001000800030000000000002200100,
   0x500001000800020000000000002200100, 0x500001001fe0ff0000000180003200100,
   0x500001000800e30000000000002200100, 0x500001000800c30000000000002200100,
   0x500001000800830000000000002200100, 0x500001001fe3ff0000000180003200100,
   0x500001000bc0e30000000000002200100, 0x500001000800000000000000002200100,
   0x500000001ff8ff0000400500003200100, 0x400000001ff8ff0000400500003000000,
   0x1000000000000000000002000000, 0x400001001fe0e30000000180003000000,
   0x400001001fefff0000000180003000010, 0x400001000800030000000000002000000,
   0x400001000800020000000000002000000, 0x400001001fe0ff0000000180003000000,
   0x400001000800e30000000000002000000, 0x400001000800c30000000000002000000,
   0x400001000800830000000000002000000, 0x400001001fe3ff0000000180003000000,
   0x400001000bc0e30000000000002000000, 0x400001000800000000000000002000000,
   0x4000010c1fffff0000400590003000010]

/-- Tokens that are looked for together. -/
def lexModes : List Nat :=
  [0x28067cc6fffffffff606db8400700397, 0x280618c60070080002061b8400700397,
   0x280618c0fffff7fff6065b8400700392, 0x80618c6fffff00004065b8400700393,
   0x800000000000001fc8400000082, 0xd00000000000002000000000000, 0xe00000000000004000000000000,
   0x80618c6007000000006490000100082, 0x8800000000000000000000000000,
   0x3c00000000000000000000000000, 0x4800000000000000000000000000, 0x118c0fffff00004005b0400700392,
   0x80000000000000a040000000000, 0x800000000000014040000000000]

/-- A token that takes a scanner of its own, or is left to patterns where others are not. -/
inductive Scannable where
  | automaticSemicolon
  | templateText
  | questionMark
  | htmlComment
  | logicalOr
  | escapeSequence
  | regexBody
  | jsxText
  deriving DecidableEq, Repr

/-- The token that is found. -/
def Scannable.token : Scannable → Nat
  | .automaticSemicolon => 128
  | .templateText => 129
  | .questionMark => 130
  | .htmlComment => 131
  | .logicalOr => 77
  | .escapeSequence => 106
  | .regexBody => 111
  | .jsxText => 132

/-- What the scanners are asked for. -/
def scanModes : List (List Scannable) :=
  [[.automaticSemicolon, .templateText, .questionMark, .htmlComment, .logicalOr, .escapeSequence, .regexBody, .jsxText],
   [.htmlComment], [.automaticSemicolon, .questionMark, .htmlComment, .logicalOr],
   [.automaticSemicolon, .htmlComment], [.htmlComment, .escapeSequence],
   [.htmlComment, .regexBody], [.templateText, .htmlComment, .escapeSequence],
   [.htmlComment, .jsxText], [.questionMark, .htmlComment, .logicalOr]]

end PageLint.Script.Grammar
