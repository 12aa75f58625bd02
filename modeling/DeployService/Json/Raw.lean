import DeployService.Json.Number

/-!
# The syntax of JSON

A JSON document as it is written, before anything is made of its strings and numbers. `Raw.read?`
reads exactly the well-formed documents: one value with white space around it. Strings keep their
bytes, escapes included, and numbers keep their digits. Whether a string is UTF-8 and has paired
surrogates, whether a number can be represented, and whether the nesting is too deep is decided when
a value is made of the tree, and never decided for members that nobody reads.

The reader is a recursive descent over bytes. Every value has at least one byte, so the number of
bytes bounds the depth of the descent.
-/

namespace DeployService.Json

/-- A JSON value as it is written. -/
inductive Raw where
  /-- The literal `null`. -/
  | null
  /-- The literal `true` or `false`. -/
  | bool (b : Bool)
  | number (literal : NumberLiteral)
  /-- A string, as the bytes between its quotes. -/
  | text (bytes : List UInt8)
  | array (items : List Raw)
  /-- An object, as its members in order; a name is the bytes between its quotes. -/
  | object (members : List (List UInt8 × Raw))
  deriving Inhabited

namespace Raw

/-- The bytes that may stand between the parts of a document: space, tab, line feed, return. -/
def isSpace (b : UInt8) : Bool := b == 0x20 || b == 0x09 || b == 0x0A || b == 0x0D

/-- The rest after the white space at the beginning. -/
def skipSpace (s : List UInt8) : List UInt8 := s.dropWhile isSpace

/-- The byte is the character of a decimal digit. -/
def isDigit (b : UInt8) : Bool := 0x30 ≤ b.toNat && b.toNat ≤ 0x39

/-- The byte is the character of a hexadecimal digit, in either case. -/
def isHexDigit (b : UInt8) : Bool :=
  isDigit b || (0x41 ≤ b.toNat && b.toNat ≤ 0x46) || (0x61 ≤ b.toNat && b.toNat ≤ 0x66)

/-- The values of the digits at the beginning, and the rest. -/
def digits (s : List UInt8) : List Nat × List UInt8 :=
  ((s.takeWhile isDigit).map fun b => b.toNat - 0x30, s.dropWhile isDigit)

/-- The byte stands for one character after a backslash: one of `"`, `\`, `/`, `b`, `f`, `n`, `r`
and `t`. -/
def isEscape (b : UInt8) : Bool :=
  [0x22, 0x5C, 0x2F, 0x62, 0x66, 0x6E, 0x72, 0x74].contains b

/-- Reads a string after its opening quote: the bytes up to the closing quote, and the rest. Control
characters, unknown escapes and incomplete ones are refused. -/
def readText? : List UInt8 → Option (List UInt8 × List UInt8)
  | [] => none
  | b :: rest =>
    if b = 0x22 then some ([], rest)
    else if b = 0x5C then
      match rest with
      | [] => none
      | e :: rest =>
        if isEscape e then (readText? rest).map fun (t, r) => (b :: e :: t, r)
        else if e = 0x75 then
          match rest with
          | h1 :: h2 :: h3 :: h4 :: rest =>
            if isHexDigit h1 && isHexDigit h2 && isHexDigit h3 && isHexDigit h4 then
              (readText? rest).map fun (t, r) => (b :: e :: h1 :: h2 :: h3 :: h4 :: t, r)
            else none
          | _ => none
        else none
    else if b.toNat < 0x20 then none
    else (readText? rest).map fun (t, r) => (b :: t, r)

/-- Reads the fraction of a number: a point and at least one digit. -/
def readFraction? : List UInt8 → Option (Option (List Nat) × List UInt8)
  | [] => some (none, [])
  | b :: rest =>
    if b = 0x2E then
      let (ds, r) := digits rest
      if ds.isEmpty then none else some (some ds, r)
    else some (none, b :: rest)

/-- Reads the exponent of a number: the letter `e` in either case, a sign or none, and at least one
digit. -/
def readExponent? : List UInt8 → Option (Option (Bool × List Nat) × List UInt8)
  | [] => some (none, [])
  | b :: rest =>
    if b = 0x65 ∨ b = 0x45 then
      let (down, rest) :=
        match rest with
        | [] => (false, [])
        | s :: r => if s = 0x2D then (true, r) else if s = 0x2B then (false, r) else (false, s :: r)
      let (ds, r) := digits rest
      if ds.isEmpty then none else some (some (down, ds), r)
    else some (none, b :: rest)

/-- Reads a number after its sign. The digits before the point start with zero only if it is the
only one. -/
def readUnsigned? (negative : Bool) (s : List UInt8) : Option (NumberLiteral × List UInt8) :=
  match digits s with
  | ([], _) => none
  | (0 :: _ :: _, _) => none
  | (whole, rest) => do
    let (fraction, rest) ← readFraction? rest
    let (exponent, rest) ← readExponent? rest
    return (⟨negative, whole, fraction, exponent⟩, rest)

/-- Reads a number. -/
def readNumber? : List UInt8 → Option (NumberLiteral × List UInt8)
  | [] => none
  | b :: rest => if b = 0x2D then readUnsigned? true rest else readUnsigned? false (b :: rest)

mutual

/-- Reads one value, which starts at the first byte. -/
def readValue? : Nat → List UInt8 → Option (Raw × List UInt8)
  | 0, _ => none
  | fuel + 1, s =>
    match s with
    | [] => none
    | b :: rest =>
      if b = 0x22 then (readText? rest).map fun (t, r) => (.text t, r)
      else if b = 0x5B then
        match skipSpace rest with
        | [] => none
        | c :: r =>
          if c = 0x5D then some (.array [], r)
          else (readItems? fuel (c :: r)).map fun (items, r) => (.array items, r)
      else if b = 0x7B then
        match skipSpace rest with
        | [] => none
        | c :: r =>
          if c = 0x7D then some (.object [], r)
          else (readMembers? fuel (c :: r)).map fun (members, r) => (.object members, r)
      else if b = 0x6E then
        match rest with
        | 0x75 :: 0x6C :: 0x6C :: r => some (.null, r)
        | _ => none
      else if b = 0x74 then
        match rest with
        | 0x72 :: 0x75 :: 0x65 :: r => some (.bool true, r)
        | _ => none
      else if b = 0x66 then
        match rest with
        | 0x61 :: 0x6C :: 0x73 :: 0x65 :: r => some (.bool false, r)
        | _ => none
      else (readNumber? (b :: rest)).map fun (l, r) => (.number l, r)

/-- Reads the elements of an array that has at least one, up to and including its closing bracket.
The first element starts at the first byte. -/
def readItems? : Nat → List UInt8 → Option (List Raw × List UInt8)
  | 0, _ => none
  | fuel + 1, s =>
    match readValue? fuel s with
    | none => none
    | some (item, rest) =>
      match skipSpace rest with
      | [] => none
      | c :: r =>
        if c = 0x5D then some ([item], r)
        else if c = 0x2C then
          (readItems? fuel (skipSpace r)).map fun (items, r) => (item :: items, r)
        else none

/-- Reads the members of an object that has at least one, up to and including its closing brace. The
first member starts at the first byte. -/
def readMembers? : Nat → List UInt8 → Option (List (List UInt8 × Raw) × List UInt8)
  | 0, _ => none
  | fuel + 1, s =>
    match s with
    | [] => none
    | q :: s =>
      if q = 0x22 then
        match readText? s with
        | none => none
        | some (name, rest) =>
          match skipSpace rest with
          | [] => none
          | colon :: rest =>
            if colon = 0x3A then
              match readValue? fuel (skipSpace rest) with
              | none => none
              | some (value, rest) =>
                match skipSpace rest with
                | [] => none
                | c :: r =>
                  if c = 0x7D then some ([(name, value)], r)
                  else if c = 0x2C then
                    (readMembers? fuel (skipSpace r)).map fun (members, r) =>
                      ((name, value) :: members, r)
                  else none
            else none
      else none

end

/-- Reads a document: one value with white space around it and nothing else. -/
def read? (bytes : List UInt8) : Option Raw :=
  match readValue? (bytes.length + 1) (skipSpace bytes) with
  | some (value, rest) => if (skipSpace rest).isEmpty then some value else none
  | none => none

end Raw

end DeployService.Json
