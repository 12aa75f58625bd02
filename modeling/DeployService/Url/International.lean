import DeployService.Text.Canonical
import DeployService.Text.Category
import DeployService.Text.Folding
import DeployService.Text.Split
import DeployService.Url.Direction
import DeployService.Url.Joining
import DeployService.Url.Punycode

/-!
# International names

The ASCII form of a host name. The name is brought into its common form first: every character is
folded, and the text that results is put into canonical form. Then every label with a character
outside ASCII is replaced by `xn--` and its punycode form. A name with a character that no host name
may have is refused, and so are a label that begins with `xn--` and is no such form, a label that
begins with a mark, a label with a joiner out of place, and a label that would not keep its place in
a name with both directions of writing.
-/

namespace DeployService.Url

open DeployService.Text

/-! ## Characters -/

/-- The ranges of the visible characters that no host name may have, in ascending order: stand-ins
for an unknown character, those that describe ideographs, and those with a dot in their meaning. -/
def refusedRanges : List (Nat × Nat) :=
  [(0x2024, 0x2026), (0x2488, 0x249B), (0x2FF0, 0x2FFF), (0x31EF, 0x31EF), (0x33C2, 0x33C2),
    (0x33C7, 0x33C7), (0x33D8, 0x33D8), (0xFE12, 0xFE12), (0xFE19, 0xFE19), (0xFE30, 0xFE30),
    (0xFE52, 0xFE52), (0xFFFC, 0xFFFD), (0x1F100, 0x1F100)]

/-- The character, which has been folded, is one outside ASCII that no host name may have. -/
def isRefused (c : Char) : Bool :=
  !isAscii c &&
    ((isOther c && c != joiner && c != nonJoiner) || inRanges refusedRanges c)

/-- The character of ASCII may not occur in the host of a URL. -/
def isForbidden (c : Char) : Bool :=
  c.toNat ≤ 0x20 || c.toNat == 0x7F || "%#/:<>?@[\\]^|".toList.contains c

/-- The characters of a name in the common form. -/
def commonForm (cs : List Char) : List Char := canonicalForm (cs.flatMap foldChar)

/-! ## Labels -/

/-- The greatest length of a label that is written in punycode. -/
def longestLabel : Nat := 1000

/-- The label can be shown: it does not begin with a mark, and its joiners stand where they may. -/
def isPresentable (label : List Char) : Bool :=
  !label.head?.any isMark && joinersFit [] label &&
    (label.all isAscii || label.length ≤ longestLabel)

/-- The label that the text after `xn--` stands for. It needs that form, and it is what its own
common form is. -/
def shownLabel? (forbidden : Char → Bool) (form : List Char) : Option (List Char) :=
  if form.all isAscii && form.length ≤ 2 * longestLabel then
    (Punycode.decode? form).filter fun label =>
      !label.all isAscii && commonForm label == label &&
        !label.any fun c => isRefused c || forbidden c
  else none

/-- A label as it is shown and as it is written in ASCII. -/
structure Label where
  /-- The label as it is shown. -/
  shown : List Char
  /-- The label as it is written in ASCII. -/
  ascii : List Char
  deriving DecidableEq, Repr

/-- Reads a label in the common form. -/
def Label.read? (forbidden : Char → Bool) (label : List Char) : Option Label :=
  match stripStart? "xn--".toList label with
  | some form => (shownLabel? forbidden form).map fun shown => { shown, ascii := label }
  | none =>
    some
      { shown := label
        ascii := if label.all isAscii then label else "xn--".toList ++ Punycode.encode label }

/-! ## Names -/

/-- The labels can stand in one name: each of them can be shown, and each one keeps its place if the
name has both directions of writing. -/
def areCompatible (labels : List Label) : Bool :=
  labels.all (isPresentable ·.shown) &&
    (!labels.any (·.shown.any runsLeft) || labels.all (keepsPlace ·.shown))

/-- The ASCII form of a host name without the ASCII characters in `forbidden`. -/
def asciiName? (forbidden : Char → Bool) (cs : List Char) : Option (List Char) :=
  let common := commonForm cs
  if common.any fun c => isRefused c || forbidden c then none
  else
    ((splitChars '.' common).mapM (Label.read? forbidden)).bind fun labels =>
      if areCompatible labels then some (['.'].intercalate (labels.map Label.ascii)) else none

end DeployService.Url
