import DeployService.Text.CombiningClass
import DeployService.Text.Composition

/-!
# The canonical form of a text

Texts that differ only in which characters are composed, or in the order of marks that do not affect
each other, look alike. Their common form is found by taking all characters apart, sorting the marks
on each character by their classes, and composing again what can be composed.
-/

namespace DeployService.Text

/-- Puts a character before a text whose marks are in order: a mark goes behind the marks of lower
classes. -/
def insertMark (c : Char) : List Char → List Char
  | [] => [c]
  | d :: rest =>
    if 0 < combiningClass d && combiningClass d < combiningClass c then d :: insertMark c rest
    else c :: d :: rest

/-- The text with the marks on each character in the order of their classes. Marks of one class keep
their order. -/
def orderMarks (cs : List Char) : List Char := cs.foldr insertMark []

/-- Composes the rest of a text. Before it stand the characters in `done`, the character `start`, to
which others can be added, and the marks on it; `done` and `marks` have the last one first. A mark
is kept from the character by another mark of its class between them. -/
def composeFrom (done : List Char) (start : Char) (marks : List Char) : List Char → List Char
  | [] => (marks ++ start :: done).reverse
  | c :: rest =>
    let isBlocked := marks.head?.any fun mark => combiningClass c ≤ combiningClass mark
    match if isBlocked then none else compose? start c with
    | some whole => composeFrom done whole marks rest
    | none =>
      if combiningClass c = 0 then composeFrom (marks ++ start :: done) c [] rest
      else composeFrom done start (c :: marks) rest

/-- Composes a text in which all characters are taken apart and the marks are in order. -/
def composeText (cs : List Char) : List Char :=
  let stray := cs.takeWhile (combiningClass · ≠ 0)
  match cs.dropWhile (combiningClass · ≠ 0) with
  | [] => stray
  | c :: rest => composeFrom stray.reverse c [] rest

/-- The canonical form of a text. -/
def canonicalForm (cs : List Char) : List Char :=
  if cs.all isAscii then cs else composeText (orderMarks (cs.flatMap decompose))

end DeployService.Text
