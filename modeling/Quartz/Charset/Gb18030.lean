import Quartz.Charset.Gb2312
import Quartz.Charset.Piece

/-!
# `Quartz.Charset.Gb18030`: all characters in one, two or four bytes

The pairs hold the double-byte set. The ideographs that it leaves out
stand in front of it and behind it, in the order of their codes. Every other
pair has a private character. Sequences of four bytes reach the rest of
Unicode.
-/

set_option autoImplicit false

namespace Quartz.Charset.Gb18030

/-! ### Two bytes -/

/-- The number of ideographs that the double-byte set leaves out. -/
def leftOutCount : Nat := 14139

/-- The number of ideographs in front of the double-byte set. -/
def frontCount : Nat := 6080

/-- An ideograph that the double-byte set leaves out. -/
def ideograph (n : Nat) : Nat := leftOut Gb2312.ideographs 0x4E00 n

/-- Runs of private characters for the unassigned cells of the tables, by
pairs as numbers. -/
def privateRuns : List (Nat × Nat) :=
  [(0xA2AB, 0xE766), (0xA2E4, 0xE76D), (0xA2EF, 0xE76E), (0xA2FD, 0xE770), (0xA4F4, 0xE772),
    (0xA5F7, 0xE77D), (0xA6B9, 0xE785), (0xA6D9, 0xE78D), (0xA6EC, 0xE794), (0xA6F3, 0xE796),
    (0xA6F6, 0xE797), (0xA7C2, 0xE7A0), (0xA7F2, 0xE7AF), (0xA896, 0xE7BC), (0xA8C1, 0xE7C9),
    (0xA8EA, 0xE7CD), (0xA958, 0xE7E2), (0xA95B, 0xE7E3), (0xA95D, 0xE7E4), (0xA997, 0xE7F4),
    (0xA9F0, 0xE801), (0xD7FA, 0xE810), (0xFE51, 0xE816), (0xFE90, 0xE854)]

/-- A character of a table, or the private one for the cell. -/
def assigned (c : Option Char) (a b : Nat) : Nat :=
  match c with
  | some c => c.toNat
  | none => alongRuns privateRuns (256 * a + b)

/-- The code of a pair whose second byte stands at a place before `A1`. One
cell among the private ones is a blank. -/
def frontPair (a b place : Nat) : Nat :=
  let rare := frontCount + 96 * (a - 0xAA) + place
  if a < 0xA1 then ideograph (190 * (a - 0x81) + place)
  else if a = 0xA3 && b = 0xA0 then 0x3000
  else if a < 0xA8 then 0xE4C6 + 96 * (a - 0xA1) + place
  else if a < 0xAA then assigned (Gb2312.front? (a - 0xA8) place) a b
  else if rare < leftOutCount then ideograph rare
  else assigned (Gb2312.rare? (rare - leftOutCount)) a b

/-- The code of a pair whose second byte stands at a place from `A1` on. -/
def backPair (a b place : Nat) : Nat :=
  if a < 0xA1 then ideograph (190 * (a - 0x81) + 96 + place)
  else if 0xAA ≤ a && a < 0xB0 then 0xE000 + 94 * (a - 0xAA) + place
  else if 0xF8 ≤ a then 0xE234 + 94 * (a - 0xF8) + place
  else assigned (Gb2312.char? (a - 0xA1) place) a b

/-- The code of a pair. Without a second byte that makes a pair there is
none. -/
def pair? (a b : Nat) : Option Nat :=
  if b < 0x40 || b = 0x7F || b = 0xFF then none
  else if b < 0x7F then some (frontPair a b (b - 0x40))
  else if b < 0xA1 then some (frontPair a b (b - 0x41))
  else some (backPair a b (b - 0xA1))

/-! ### Four bytes -/

/-- Runs of the characters below U+10000 that have four bytes, by the number
of the sequence. -/
def basicRuns : List (Nat × Nat) :=
  [(0, 0x0080), (36, 0x00A5), (38, 0x00A9), (45, 0x00B2), (50, 0x00B8), (81, 0x00D8),
    (89, 0x00E2), (95, 0x00EB), (96, 0x00EE), (100, 0x00F4), (103, 0x00F8), (104, 0x00FB),
    (105, 0x00FD), (109, 0x0102), (126, 0x0114), (133, 0x011C), (148, 0x012C), (172, 0x0145),
    (175, 0x0149), (179, 0x014E), (208, 0x016C), (306, 0x01CF), (307, 0x01D1), (308, 0x01D3),
    (309, 0x01D5), (310, 0x01D7), (311, 0x01D9), (312, 0x01DB), (313, 0x01DD), (341, 0x01FA),
    (428, 0x0252), (443, 0x0262), (544, 0x02C8), (545, 0x02CC), (558, 0x02DA), (741, 0x03A2),
    (742, 0x03AA), (749, 0x03C2), (750, 0x03CA), (805, 0x0402), (819, 0x0450), (820, 0x0452),
    (7922, 0x2011), (7924, 0x2017), (7925, 0x201A), (7927, 0x201E), (7934, 0x2027),
    (7943, 0x2031), (7944, 0x2034), (7945, 0x2036), (7950, 0x203C), (8062, 0x20AD),
    (8148, 0x2104), (8149, 0x2106), (8152, 0x210A), (8164, 0x2117), (8174, 0x2122),
    (8236, 0x216C), (8240, 0x217A), (8262, 0x2194), (8264, 0x219A), (8374, 0x2209),
    (8380, 0x2210), (8381, 0x2212), (8384, 0x2216), (8388, 0x221B), (8390, 0x2221),
    (8392, 0x2224), (8393, 0x2226), (8394, 0x222C), (8396, 0x222F), (8401, 0x2238),
    (8406, 0x223E), (8416, 0x2249), (8419, 0x224D), (8424, 0x2253), (8437, 0x2262),
    (8439, 0x2268), (8445, 0x2270), (8482, 0x2296), (8485, 0x229A), (8496, 0x22A6),
    (8521, 0x22C0), (8603, 0x2313), (8936, 0x246A), (8946, 0x249C), (9046, 0x254C),
    (9050, 0x2574), (9063, 0x2590), (9066, 0x2596), (9076, 0x25A2), (9092, 0x25B4),
    (9100, 0x25BE), (9108, 0x25C8), (9111, 0x25CC), (9113, 0x25D0), (9131, 0x25E6),
    (9162, 0x2607), (9164, 0x260A), (9218, 0x2641), (9219, 0x2643), (11329, 0x2E82),
    (11331, 0x2E85), (11334, 0x2E89), (11336, 0x2E8D), (11346, 0x2E98), (11361, 0x2EA8),
    (11363, 0x2EAB), (11366, 0x2EAF), (11370, 0x2EB4), (11372, 0x2EB8), (11375, 0x2EBC),
    (11389, 0x2ECB), (11682, 0x2FFC), (11686, 0x3004), (11687, 0x3018), (11692, 0x301F),
    (11694, 0x302A), (11714, 0x303F), (11716, 0x3094), (11723, 0x309F), (11725, 0x30F7),
    (11730, 0x30FF), (11736, 0x312A), (11982, 0x322A), (11989, 0x3232), (12102, 0x32A4),
    (12336, 0x3390), (12348, 0x339F), (12350, 0x33A2), (12384, 0x33C5), (12393, 0x33CF),
    (12395, 0x33D3), (12397, 0x33D6), (12510, 0x3448), (12553, 0x3474), (12851, 0x359F),
    (12962, 0x360F), (12973, 0x361B), (13738, 0x3919), (13823, 0x396F), (13919, 0x39D1),
    (13933, 0x39E0), (14080, 0x3A74), (14298, 0x3B4F), (14585, 0x3C6F), (14698, 0x3CE1),
    (15583, 0x4057), (15847, 0x4160), (16318, 0x4338), (16434, 0x43AD), (16438, 0x43B2),
    (16481, 0x43DE), (16729, 0x44D7), (17102, 0x464D), (17122, 0x4662), (17315, 0x4724),
    (17320, 0x472A), (17402, 0x477D), (17418, 0x478E), (17859, 0x4948), (17909, 0x497B),
    (17911, 0x497E), (17915, 0x4984), (17916, 0x4987), (17936, 0x499C), (17939, 0x49A0),
    (17961, 0x49B8), (18664, 0x4C78), (18703, 0x4CA4), (18814, 0x4D1A), (18962, 0x4DAF),
    (19043, 0x9FA6), (33469, 0xE76C), (33470, 0xE7C8), (33471, 0xE7E7), (33484, 0xE815),
    (33485, 0xE819), (33490, 0xE81F), (33497, 0xE827), (33501, 0xE82D), (33505, 0xE833),
    (33513, 0xE83C), (33520, 0xE844), (33536, 0xE856), (33550, 0xE865), (37845, 0xF92D),
    (37921, 0xF97A), (37948, 0xF996), (38029, 0xF9E8), (38038, 0xF9F2), (38064, 0xFA10),
    (38065, 0xFA12), (38066, 0xFA15), (38069, 0xFA19), (38075, 0xFA22), (38076, 0xFA25),
    (38078, 0xFA2A), (39108, 0xFE32), (39109, 0xFE45), (39113, 0xFE53), (39114, 0xFE58),
    (39115, 0xFE67), (39116, 0xFE6C), (39265, 0xFF5F), (39394, 0xFFE6)]

/-- The number of sequences for characters below U+10000. -/
def basicCount : Nat := 39420

/-- The number of the sequence for U+10000. -/
def firstBeyond : Nat := 189000

/-- The code of four bytes. -/
def four? (a b c d : Nat) : Option Nat :=
  let n := ((10 * (a - 0x81) + (b - 0x30)) * 126 + (c - 0x81)) * 10 + (d - 0x30)
  if c < 0x81 || c = 0xFF || d < 0x30 || 0x3A ≤ d then none
  else if n < basicCount then some (alongRuns basicRuns n)
  else if firstBeyond ≤ n && n < firstBeyond + 0x100000 then some (0x10000 + (n - firstBeyond))
  else none

end Quartz.Charset.Gb18030
