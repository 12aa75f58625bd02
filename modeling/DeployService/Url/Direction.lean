import DeployService.Text.Category

/-!
# Direction of writing

Text in scripts such as Hebrew and Arabic runs from right to left, and numbers in it from left to
right. In a host name with such characters the labels are to keep their places when the name is
shown, so each of them has to follow rules about the characters that it begins and ends with and
that it may mix.

The ranges are right for the characters that a host name may hold, as of Unicode 17; between these
characters they run on.
-/

namespace DeployService.Url

open DeployService.Text

/-- How a character takes part in the direction of a text. -/
inductive Direction where
  /-- A letter of a script that runs from left to right. -/
  | leftToRight
  /-- A letter of a script that runs from right to left. -/
  | rightToLeft
  /-- A digit, European or of the same behaviour. -/
  | europeanDigit
  /-- An Arabic digit or a character of numbers with such digits. -/
  | arabicDigit
  /-- A mark, which goes with the character before it. -/
  | mark
  /-- A character that goes with those around it. -/
  | neutral
  deriving DecidableEq, Repr

/-- The ranges of the digits that behave as European ones, beyond ASCII. -/
def europeanDigitRanges : List (Nat × Nat) :=
  [(0x6F0, 0x6F9), (0x102E1, 0x102FB)]

/-- The ranges of the Arabic digits and the characters of their numbers. -/
def arabicDigitRanges : List (Nat × Nat) :=
  [(0x660, 0x669), (0x66B, 0x66C), (0x10D30, 0x10D49), (0x10E60, 0x10E7E)]

/-- The ranges that hold the neutral characters beyond ASCII; digits and marks may lie in them too.
-/
def neutralRanges : List (Nat × Nat) :=
  [(0xA1, 0xD7), (0xF7, 0xF7), (0x2B9, 0x2BA), (0x2C2, 0x2CF), (0x2D2, 0x2ED), (0x2EF, 0x2FF),
    (0x375, 0x375), (0x3F6, 0x3F6), (0x58A, 0x58F), (0x606, 0x607), (0x609, 0x60A),
    (0x60C, 0x60C), (0x60E, 0x60F), (0x66A, 0x66A), (0x6DE, 0x6DE), (0x6E9, 0x6E9),
    (0x7F6, 0x7F9), (0x9F2, 0x9F3), (0x9FB, 0x9FB), (0xAF1, 0xAF1), (0xBF3, 0xBFA),
    (0xC78, 0xC7E), (0xE3F, 0xE3F), (0xF3A, 0xF3D), (0x1390, 0x1399), (0x1400, 0x1400),
    (0x169B, 0x169C), (0x17DB, 0x17DB), (0x17F0, 0x180A), (0x1940, 0x1945), (0x19DE, 0x19FF),
    (0x200C, 0x214D), (0x218A, 0x2335), (0x237B, 0x2394), (0x2396, 0x26AB), (0x26AD, 0x27FF),
    (0x2900, 0x2BFF), (0x2CE5, 0x2CEA), (0x2CF9, 0x2CFF), (0x2E00, 0x3004), (0x3008, 0x3020),
    (0x3030, 0x3030), (0x3037, 0x3037), (0x303D, 0x303F), (0x30A0, 0x30A0), (0x30FB, 0x30FB),
    (0x31C0, 0x31E5), (0x4DC0, 0x4DFF), (0xA490, 0xA4C6), (0xA60D, 0xA60F), (0xA673, 0xA67F),
    (0xA700, 0xA721), (0xA788, 0xA788), (0xA828, 0xA82B), (0xA838, 0xA839), (0xA874, 0xA877),
    (0xAB6A, 0xAB6B), (0xFBC3, 0xFE46), (0xFFFD, 0xFFFD), (0x10101, 0x10101), (0x10140, 0x1018C),
    (0x10190, 0x101A0), (0x1091F, 0x1091F), (0x10B39, 0x10B3F), (0x10D6E, 0x10D6E),
    (0x10ED0, 0x10ED8), (0x11052, 0x11065), (0x11660, 0x1166C), (0x11FD5, 0x11FF1),
    (0x16FE2, 0x16FE2), (0x1CC00, 0x1CEF0), (0x1D1E9, 0x1D245), (0x1D300, 0x1D356),
    (0x1E2FF, 0x1E2FF), (0x1EEF0, 0x1F12F), (0x1F16D, 0x1F16F), (0x1F1AD, 0x1F1AD),
    (0x1F260, 0x1FBFA)]

/-- The ranges that hold the letters of the scripts that run from right to left; characters of other
kinds may lie in them too. -/
def rightToLeftRanges : List (Nat × Nat) :=
  [(0x5BE, 0x8C9), (0xFBB2, 0xFE73), (0x10800, 0x10FF6), (0x1E800, 0x1ED3D)]

/-- The code points of the marks that behave as letters. -/
def letterLikeMarks : List Nat := [0xCBF, 0xCC6, 0x11A07, 0x11A08, 0x11C3F]

/-- The direction of a character. -/
def direction (c : Char) : Direction :=
  if isAscii c then
    if c.isAlpha then .leftToRight else if c.isDigit then .europeanDigit else .neutral
  else if inRanges europeanDigitRanges c then .europeanDigit
  else if inRanges arabicDigitRanges c then .arabicDigit
  else if isNonspacingMark c then
    if letterLikeMarks.contains c.toNat then .leftToRight else .mark
  else if inRanges neutralRanges c then .neutral
  else if inRanges rightToLeftRanges c then .rightToLeft
  else .leftToRight

/-- The character makes a name one of both directions. -/
def runsLeft (c : Char) : Bool := direction c = .rightToLeft || direction c = .arabicDigit

/-- The directions after the first one fit a label that begins with a letter from left to right.
They come last one first and without the marks at the end. -/
def fitsLeftToRight : List Direction → Bool
  | [] => true
  | last :: others =>
    [.leftToRight, .europeanDigit].contains last &&
      others.all [.leftToRight, .europeanDigit, .neutral, .mark].contains

/-- The directions after the first one fit a label that begins with a letter from right to left.
They come last one first and without the marks at the end. Digits of both kinds are not mixed. -/
def fitsRightToLeft : List Direction → Bool
  | [] => true
  | last :: others =>
    [.rightToLeft, .europeanDigit, .arabicDigit].contains last && !others.contains .leftToRight &&
      !((last :: others).contains .europeanDigit && (last :: others).contains .arabicDigit)

/-- The label keeps its place in a name of both directions. -/
def keepsPlace : List Char → Bool
  | [] => true
  | c :: rest =>
    let tail := (rest.map direction).reverse.dropWhile (· = .mark)
    match direction c with
    | .leftToRight => fitsLeftToRight tail
    | .rightToLeft => fitsRightToLeft tail
    | _ => false

end DeployService.Url
