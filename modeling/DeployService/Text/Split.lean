/-!
# Splitting texts

A text can be cut at every occurrence of a character (`splitOn`), at the first one (`cut?`), or at
the first occurrence of a longer separator (`cutAt?`). Joining is `String.intercalate`. How a text
begins and ends can be told without cutting it (`hasStart`, `hasEnd`).
-/

namespace DeployService.Text

/-- The pieces of a text between the occurrences of `sep`, where `piece` holds the characters (last
one first) of the piece being read. There is always at least one piece. -/
def splitFrom (sep : Char) (piece : List Char) : List Char → List (List Char)
  | [] => [piece.reverse]
  | c :: rest =>
    if c = sep then piece.reverse :: splitFrom sep [] rest else splitFrom sep (c :: piece) rest

/-- The pieces of a text between the occurrences of `sep`. -/
def splitChars (sep : Char) (cs : List Char) : List (List Char) := splitFrom sep [] cs

/-- The pieces of a text between the occurrences of `sep`: one more than there are occurrences. -/
def splitOn (sep : Char) (s : String) : List String := (splitChars sep s.toList).map String.ofList

/-- What stands before and after the first occurrence of `sep`, if there is one. -/
def cutChars? (sep : Char) : List Char → Option (List Char × List Char)
  | [] => none
  | c :: rest =>
    if c = sep then some ([], rest)
    else (cutChars? sep rest).map fun (before, after) => (c :: before, after)

/-- What stands before and after the first occurrence of `sep`, if there is one. -/
def cut? (sep : Char) (s : String) : Option (String × String) :=
  (cutChars? sep s.toList).map fun (before, after) => (String.ofList before, String.ofList after)

/-- What stands before the first occurrence of `sep`, or the whole text. -/
def before (sep : Char) (s : String) : String := String.ofList (s.toList.takeWhile (· ≠ sep))

/-- The rest of a list after a given beginning, if it has that beginning. -/
def stripStart? {α : Type} [DecidableEq α] : List α → List α → Option (List α)
  | [], cs => some cs
  | _ :: _, [] => none
  | p :: ps, c :: cs => if p = c then stripStart? ps cs else none

/-- What stands before and after the first occurrence of the separator `sep`, if there is one. -/
def cutCharsAt? (sep : List Char) : List Char → Option (List Char × List Char)
  | [] => if sep.isEmpty then some ([], []) else none
  | c :: rest =>
    match stripStart? sep (c :: rest) with
    | some after => some ([], after)
    | none => (cutCharsAt? sep rest).map fun (before, after) => (c :: before, after)

/-- What stands before and after the first occurrence of the separator `sep`, if there is one. -/
def cutAt? (sep : String) (s : String) : Option (String × String) :=
  (cutCharsAt? sep.toList s.toList).map fun (before, after) =>
    (String.ofList before, String.ofList after)

/-- The text begins with the given one. -/
def hasStart (start s : String) : Bool := start.toList.isPrefixOf s.toList

/-- The text ends with the given one. -/
def hasEnd (ending s : String) : Bool := ending.toList.isSuffixOf s.toList

/-! ## Letter case in ASCII -/

/-- The text with the letters `A` to `Z` in lower case. -/
def lowerAscii (s : String) : String := String.ofList (s.toList.map Char.toLower)

/-- Whether two texts are equal up to the case of the letters `A` to `Z`. -/
def sameIgnoringCase (a b : String) : Bool := lowerAscii a == lowerAscii b

end DeployService.Text
