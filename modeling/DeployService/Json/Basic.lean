/-!
# JSON values

A JSON value as the service and the client exchange it. Numbers are either integers of at most 64
bits or binary floating-point numbers: the two are told apart by how they are written, so that `1`
and `1.0` are different values.

The members of an object are a list, so that a value can be printed in the order in which its
record declares its fields. A value that was read has its members sorted by name and each name once
(`insertMember`).
-/

namespace DeployService

/-- A JSON value. -/
inductive Json where
  /-- The value `null`. -/
  | null
  /-- A truth value. -/
  | bool (b : Bool)
  /-- An integer, written without a fraction or an exponent. -/
  | integer (n : Int)
  /-- A number written with a fraction or an exponent, or one too large for an integer. -/
  | float (x : Float)
  /-- A string. -/
  | text (s : String)
  | array (items : List Json)
  /-- An object, as its members in order. -/
  | object (members : List (String × Json))
  deriving Inhabited

namespace Json

/-- The least integer that is read as an integer. -/
def minInteger : Int := -9223372036854775808

/-- The greatest integer that is read as an integer. -/
def maxInteger : Int := 18446744073709551615

/-- Puts a member into a list of members sorted by name. A member of the same name is replaced. -/
def insertMember {α : Type} (name : String) (value : α) :
    List (String × α) → List (String × α)
  | [] => [(name, value)]
  | (n, v) :: rest =>
    if name < n then (name, value) :: (n, v) :: rest
    else if name = n then (name, value) :: rest
    else (n, v) :: insertMember name value rest

/-- The members sorted by name; of several with one name the last one counts. -/
def sortMembers {α : Type} (members : List (String × α)) : List (String × α) :=
  members.foldl (fun sorted (n, v) => insertMember n v sorted) []

/-- The first member of the given name. -/
def lookup? {α : Type} (name : String) : List (String × α) → Option α
  | [] => none
  | (n, v) :: rest => if n = name then some v else lookup? name rest

/-- The member of an object with the given name. -/
def member? (name : String) : Json → Option Json
  | .object members => lookup? name members
  | _ => none

end Json

end DeployService
