import DebugClient.Text.Mark
/-!
# Direction — which way a character is written

The directions that matter in a domain name: strong ones to the right and
to the left, numbers with what belongs to them, and what takes the
direction around it. Letters run to the right where nothing else is said.
The tables cover the characters a domain name may hold.
-/

namespace DebugClient

/-- The direction of a character. -/
inductive Direction where
  /-- To the right. -/
  | right
  /-- To the left. -/
  | left
  /-- To the left, in an Arabic script. -/
  | arabicLetter
  /-- A number of Arabic digits. -/
  | arabicNumber
  /-- A number of European digits. -/
  | europeanNumber
  /-- Separates European numbers. -/
  | europeanSeparator
  /-- Separates numbers. -/
  | commonSeparator
  /-- Belongs to a European number. -/
  | europeanTerminator
  /-- Takes the direction around it. -/
  | neutral
  /-- Is not seen. -/
  | boundaryNeutral
  /-- Takes the direction of the character in front. -/
  | nonspacing
  /-- Parts paragraphs, segments or words. -/
  | gap
  deriving DecidableEq

namespace Direction

/-- Ranges of characters that run to the left. -/
def leftRanges : List CharRange := CharRange.ofRows "
5be 5c0 5c3 5c6 5d0.5f4 7c0.7ea 7f4.7f5 7fa 7fe.815 81a 824 828 830.858 85e fb1d fb1f.fb4e
10800.1091b 10920.10a00 10a10.10a35 10a40.10ae4 10aeb.10b35 10b40.10cff 10d4a.10d4f 10d6f.10d8f
10e80.10ea9 10ead.10eb1 10f00.10f27 10f70.10f81 10f86.10ff6 1e800.1e8cf 1e922.1e943 1e94b.1e95f"

/-- Ranges of letters of Arabic scripts. -/
def arabicLetterRanges : List CharRange := CharRange.ofRows "
608 60b 60d 61b.64a 66d.66f 671.6d5 6e5.6e6 6ee.6ef 6fa.710 712.72f 74d.7a5 7b1 860.88f 8a0.8c9
fbb2.fbc2 fe73 10d00.10d23 10ec2.10ec7 10ed9.10eee 10f30.10f45 10f51.10f59 1ec71.1ed3d"

/-- Ranges of Arabic digits and marks of Arabic numbers. -/
def arabicNumberRanges : List CharRange := CharRange.ofRows "
660.669 66b.66c 10d30.10d49 10e60.10e7e"

/-- Ranges of European digits. -/
def europeanNumberRanges : List CharRange := CharRange.ofRows "
30.39 6f0.6f9 102e1.102fb"

/-- Ranges of separators of European numbers. -/
def europeanSeparatorRanges : List CharRange := CharRange.ofRows "
2b 2d 2212"

/-- Ranges of separators of numbers. -/
def commonSeparatorRanges : List CharRange := CharRange.ofRows "
2c 2e.2f 3a 60c 2044"

/-- Ranges of characters that belong to European numbers. -/
def europeanTerminatorRanges : List CharRange := CharRange.ofRows "
23.25 a2.a5 b0.b1 58f 609.60a 66a 9f2.9f3 9fb af1 bf9 e3f 17db 2030.2032 20a0.20c3 212e 2213
a838.a839 11fdd.11fe0 1e2ff"

/-- Ranges of characters that take the direction around them. -/
def neutralRanges : List CharRange := CharRange.ofRows "
21.22 26.2a 3b.60 7b.7e a1 a6.ae b6.d7 f7 2b9.2ba 2c2.2cf 2d2.2ed 2ef.2ff 374.375 37e.387 3f6 58a
58d.58e 606.607 60e.60f 6de 6e9 7f6.7f9 bf3.bf8 bfa c78.c7e f3a.f3d 1390.1399 1400 169b.169c
17f0.180a 1940.1945 19de.19ff 1fef 2010.2027 2035.2043 2045.205e 2104.2129 213a.214d 218a.2211
2214.2335 237b.2394 2396.26ab 26ad.27ff 2900.2bff 2ce5.2cea 2cf9.2cff 2e00.3004 3008.3020 3030
3037 303d.303f 30a0 30fb 31c0.31e5 4dc0.4dff a490.a4c6 a60d.a60f a673 a67e.a67f a700.a721 a788
a828.a82b a874.a877 ab6a.ab6b fbc3.fdff fe45.fe46 10101 10140.1018c 10190.101a0 1091f 10b39.10b3f
10d6e 10ed0.10ed8 11052.11065 11660.1166c 11fd5.11fdc 11fe1.11ff1 16fe2 1cc00.1ceff 1d1e9.1d241
1d245 1d300.1d356 1db00.1dbff 1eef0.1f12f 1f16d.1f16f 1f1ad.1f1ae 1f260.1fbfa"

/-- Ranges of characters that are not seen. -/
def boundaryNeutralRanges : List CharRange := CharRange.ofRows "
0.8 e.1b 7f 200c.200d"

/-- Ranges of gaps. -/
def gapRanges : List CharRange := CharRange.ofRows "
9.d 1c.20"

/-- The tables of all directions but two. -/
def tables : List (List CharRange × Direction) :=
  [(leftRanges, left), (arabicLetterRanges, arabicLetter), (arabicNumberRanges, arabicNumber),
    (europeanNumberRanges, europeanNumber), (europeanSeparatorRanges, europeanSeparator),
    (commonSeparatorRanges, commonSeparator), (europeanTerminatorRanges, europeanTerminator),
    (neutralRanges, neutral), (boundaryNeutralRanges, boundaryNeutral), (gapRanges, gap)]

/-- The direction of a character. -/
def ofChar (c : Char) : Direction :=
  if Mark.isNonspacing c then nonspacing
  else ((tables.find? fun t => CharRange.anyHolds t.1 c).map (·.2)).getD right

/-- Whether a character makes the text around it run to the left. -/
def isLeftward (d : Direction) : Bool := d = left || d = arabicLetter || d = arabicNumber

end Direction

end DebugClient
