/-!
# Blank characters

The white space of Unicode (property `White_Space`), and what is built on it: trimming a text at
both ends and splitting it into words. ASCII white space is only a small part of it: a no-break
space or an ideographic space around a setting is trimmed as well.

All functions work on `List Char`, where they are plain `dropWhile`s and structural recursions;
the versions on `String` only wrap them.
-/

namespace DeployService.Text

/-- The characters with the Unicode property `White_Space`. -/
def isBlank (c : Char) : Bool :=
  let n := c.toNat
  (0x09 ≤ n && n ≤ 0x0D) || n == 0x20 || n == 0x85 || n == 0xA0 || n == 0x1680 ||
    (0x2000 ≤ n && n ≤ 0x200A) || n == 0x2028 || n == 0x2029 || n == 0x202F || n == 0x205F ||
    n == 0x3000

/-- The text without its leading blanks. -/
def trimStart (cs : List Char) : List Char := cs.dropWhile isBlank

/-- The text without its trailing blanks. -/
def trimEnd (cs : List Char) : List Char := (cs.reverse.dropWhile isBlank).reverse

/-- The text without the blanks at either end. -/
def trimChars (cs : List Char) : List Char := trimEnd (trimStart cs)

/-- The text without the blanks at either end. -/
def trim (s : String) : String := String.ofList (trimChars s.toList)

/-- A text is blank when it has no character that is not. The empty text is blank. -/
def isBlankText (s : String) : Bool := s.toList.all isBlank

/-- The words of a text, where `word` holds the letters (last one first) of the word being read. -/
def wordsFrom (word : List Char) : List Char → List (List Char)
  | [] => if word.isEmpty then [] else [word.reverse]
  | c :: rest =>
    if isBlank c then
      if word.isEmpty then wordsFrom [] rest else word.reverse :: wordsFrom [] rest
    else wordsFrom (c :: word) rest

/-- The maximal runs of characters that are not blank, in order. -/
def words (s : String) : List String := (wordsFrom [] s.toList).map String.ofList

/-! ## Trimming other characters -/

/-- The text without the leading characters that satisfy `p`. -/
def trimStartWhile (p : Char → Bool) (s : String) : String := String.ofList (s.toList.dropWhile p)

/-- The text without the trailing characters that satisfy `p`. -/
def trimEndWhile (p : Char → Bool) (s : String) : String :=
  String.ofList ((s.toList.reverse.dropWhile p).reverse)

/-- The text without the characters at either end that satisfy `p`. -/
def trimWhile (p : Char → Bool) (s : String) : String := trimEndWhile p (trimStartWhile p s)

end DeployService.Text
