import DeployService.Json.Basic
import DeployService.Json.Shortest
import DeployService.Text.Digits

/-!
# Printing JSON values

The compact form of a value: no white space, members in the order of the list. In a string only the
quote, the backslash and the control characters are escaped; five control characters have an escape
of their own and the others are written with four hexadecimal digits.
-/

namespace DeployService.Json

/-- A character inside a string. -/
def escapeChar (c : Char) : List Char :=
  if c = '"' then ['\\', '"']
  else if c = '\\' then ['\\', '\\']
  else if c.toNat < 0x20 then
    if c.toNat = 0x08 then ['\\', 'b']
    else if c.toNat = 0x09 then ['\\', 't']
    else if c.toNat = 0x0A then ['\\', 'n']
    else if c.toNat = 0x0C then ['\\', 'f']
    else if c.toNat = 0x0D then ['\\', 'r']
    else ['\\', 'u', '0', '0', Text.hexLower (c.toNat / 16), Text.hexLower (c.toNat % 16)]
  else [c]

/-- A text in quotes. -/
def printText (s : String) : List Char := '"' :: s.toList.flatMap escapeChar ++ ['"']

/-- A floating-point number; the ones that are no numbers are written as `null`. -/
def printFloat (x : Float) : List Char :=
  if x.isFinite then (showFloat x).toList else "null".toList

mutual

/-- The characters of a value. -/
def print : Json → List Char
  | .null => "null".toList
  | .bool b => (if b then "true" else "false").toList
  | .integer n => (Text.showInt n).toList
  | .float x => printFloat x
  | .text s => printText s
  | .array [] => ['[', ']']
  | .array (item :: rest) => '[' :: print item ++ printItems rest
  | .object [] => ['{', '}']
  | .object ((name, value) :: rest) =>
    '{' :: printText name ++ ':' :: print value ++ printMembers rest

/-- The elements of an array after the first one, each with a comma before it, and the bracket. -/
def printItems : List Json → List Char
  | [] => [']']
  | item :: rest => ',' :: print item ++ printItems rest

/-- The members of an object after the first one, each with a comma before it, and the brace. -/
def printMembers : List (String × Json) → List Char
  | [] => ['}']
  | (name, value) :: rest => ',' :: printText name ++ ':' :: print value ++ printMembers rest

end

/-- The compact text of a value. -/
def render (j : Json) : String := String.ofList (print j)

end DeployService.Json
