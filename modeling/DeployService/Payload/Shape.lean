import DeployService.Json.Decode

/-!
# Shapes of payloads

A payload is a value of a record type that travels as JSON. What such a record looks like on the
wire is described by a `Shape`: which members it has, in which order, of which shapes, and which of
them are left out when they are empty. Decoding, defaults and encoding are defined once, by
recursion on the shape, so that every record obeys the same rules:

* a member that is absent takes its default, and a member that the shape does not know is ignored,
  whatever is written in it;
* a known member that is written twice is an error;
* a record is also read from an array that holds its members in declaration order; missing members
  at the end take their defaults and surplus ones are an error;
* at most `Json.maxDepth` arrays and objects may be open around what is read.

`Shape.Value` is the type of the values of a shape; a record is a nested pair of its members.
-/

namespace DeployService.Payload

open DeployService.Json

mutual

/-- What a value looks like on the wire. -/
inductive Shape where
  /-- A string. -/
  | text
  /-- A truth value. -/
  | flag
  /-- A signed integer of 64 bits. -/
  | integer64
  /-- A signed integer of 32 bits. -/
  | integer32
  /-- A value or `null`. -/
  | optional (inner : Shape)
  /-- An array of values of one shape. -/
  | list (item : Shape)
  /-- An object whose members are arbitrary JSON values. -/
  | dictionary
  /-- A record with the given members. -/
  | record (fields : Fields)

/-- The members of a record, in declaration order. -/
inductive Fields where
  /-- No member. -/
  | nil
  /-- A member, and the ones after it. A member with `omitEmpty` is not written when it is empty. -/
  | cons (name : String) (omitEmpty : Bool) (shape : Shape) (rest : Fields)

end

mutual

/-- The values of a shape. -/
def Shape.Value : Shape → Type
  | .text => String
  | .flag => Bool
  | .integer64 => Int64
  | .integer32 => Int32
  | .optional s => Option s.Value
  | .list s => List s.Value
  | .dictionary => List (String × Json)
  | .record fs => fs.Values

/-- The values of the members of a record. -/
def Fields.Values : Fields → Type
  | .nil => Unit
  | .cons _ _ s rest => s.Value × rest.Values

end

mutual

/-- The value that an absent member takes. -/
def Shape.default : (s : Shape) → s.Value
  | .text => ""
  | .flag => false
  | .integer64 => (0 : Int64)
  | .integer32 => (0 : Int32)
  | .optional _ => none
  | .list _ => []
  | .dictionary => []
  | .record fs => fs.defaults

/-- The defaults of the members of a record. -/
def Fields.defaults : (fs : Fields) → fs.Values
  | .nil => ()
  | .cons _ _ s rest => (s.default, rest.defaults)

end

/-- The value is absent or has no elements. -/
def Shape.isEmpty : (s : Shape) → s.Value → Bool
  | .optional _, v => Option.isNone v
  | .list _, v => List.isEmpty v
  | .dictionary, v => List.isEmpty v
  | _, _ => false

/-! ## Decoding -/

/-- An integer literal in the given range. -/
def readInteger? (low high : Int) (l : NumberLiteral) : Option Int :=
  match l.value? with
  | some (.integer n) => if low ≤ n ∧ n ≤ high then some n else none
  | _ => none

/-- The members of an object with their names decoded. A name that is no text is an error. -/
def decodeNames? : List (List UInt8 × Raw) → Option (List (String × Raw))
  | [] => some []
  | (n, r) :: rest => do
    let name ← decodeText? n
    let members ← decodeNames? rest
    return (name, r) :: members

/-- What is written in the members of the given name. -/
def membersNamed (name : String) (members : List (String × Raw)) : List Raw :=
  (members.filter (·.1 == name)).map (·.2)

mutual

/-- Reads a value of a shape from a tree in which at most `depth` arrays and objects are open. -/
def Shape.decode? : (s : Shape) → Nat → Raw → Option s.Value
  | .text, _, r =>
    match r with
    | .text t => decodeText? t
    | _ => none
  | .flag, _, r =>
    match r with
    | .bool b => some b
    | _ => none
  | .integer64, _, r =>
    match r with
    | .number l => (readInteger? Int64.minValue.toInt Int64.maxValue.toInt l).map Int64.ofInt
    | _ => none
  | .integer32, _, r =>
    match r with
    | .number l => (readInteger? Int32.minValue.toInt Int32.maxValue.toInt l).map Int32.ofInt
    | _ => none
  | .optional s, depth, r =>
    match r with
    | .null => some (none : Option s.Value)
    | r => (s.decode? depth r).map some
  | .list s, depth, r =>
    match depth, r with
    | depth + 1, .array items => items.mapM (s.decode? depth)
    | _, _ => none
  | .dictionary, depth, r =>
    match depth, r with
    | depth + 1, .object members => (ofMembers? depth members).map sortMembers
    | _, _ => none
  | .record fs, depth, r =>
    match depth, r with
    | depth + 1, .array items => fs.decodeItems? depth items
    | depth + 1, .object members => (decodeNames? members).bind (fs.decodeMembers? depth)
    | _, _ => none

/-- Reads the members of a record from the elements of an array. -/
def Fields.decodeItems? : (fs : Fields) → Nat → List Raw → Option fs.Values
  | .nil, _, items => if items.isEmpty then some () else none
  | .cons _ _ s rest, depth, items =>
    match items with
    | [] => some (s.default, rest.defaults)
    | r :: rs => do
      let v ← s.decode? depth r
      let vs ← rest.decodeItems? depth rs
      return (v, vs)

/-- Reads the members of a record from the members of an object. -/
def Fields.decodeMembers? : (fs : Fields) → Nat → List (String × Raw) → Option fs.Values
  | .nil, _, _ => some ()
  | .cons name _ s rest, depth, members => do
    let v ←
      match membersNamed name members with
      | [] => some s.default
      | [r] => s.decode? depth r
      | _ => none
    let vs ← rest.decodeMembers? depth members
    return (v, vs)

end

/-! ## Encoding -/

mutual

/-- The JSON form of a value. -/
def Shape.encode : (s : Shape) → s.Value → Json
  | .text, v => .text v
  | .flag, v => .bool v
  | .integer64, v => .integer (Int64.toInt v)
  | .integer32, v => .integer (Int32.toInt v)
  | .optional s, v =>
    match (v : Option s.Value) with
    | none => .null
    | some v => s.encode v
  | .list s, v => .array (List.map s.encode v)
  | .dictionary, v => .object v
  | .record fs, v => .object (fs.encode v)

/-- The members of a record in declaration order, without the empty ones that are left out. -/
def Fields.encode : (fs : Fields) → fs.Values → List (String × Json)
  | .nil, _ => []
  | .cons name omitEmpty s rest, (v, vs) =>
    if omitEmpty && s.isEmpty v then rest.encode vs else (name, s.encode v) :: rest.encode vs

end

end DeployService.Payload
