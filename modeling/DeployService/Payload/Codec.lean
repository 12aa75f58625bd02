import DeployService.Json.Printer
import DeployService.Payload.Shape

/-!
# Payload types

A type is a payload type when its values are those of a shape (`Payload`). Its JSON form, its
decoding and its default value follow from the shape. Texts and lists of payloads are payloads.
-/

namespace DeployService

/-- A type whose values travel as JSON of a fixed shape. -/
class Payload (α : Type) where
  /-- The shape of the values. -/
  shape : Payload.Shape
  /-- The members of a value. -/
  toValue : α → shape.Value
  /-- The value with the given members. -/
  ofValue : shape.Value → α
  /-- A value is given by its members. -/
  ofValue_toValue : ∀ a, ofValue (toValue a) = a
  /-- The members of a value are the ones it was made of. -/
  toValue_ofValue : ∀ v, toValue (ofValue v) = v

namespace Payload

instance : Payload String where
  shape := .text
  toValue s := s
  ofValue s := s
  ofValue_toValue _ := rfl
  toValue_ofValue _ := rfl

variable {α : Type} [Payload α]

instance : Payload (List α) where
  shape := .list (shape α)
  toValue as := as.map toValue
  ofValue vs := List.map ofValue vs
  ofValue_toValue as := by
    induction as with
    | nil => rfl
    | cons a as ih => exact congr (congrArg List.cons (ofValue_toValue a)) ih
  toValue_ofValue vs := by
    induction vs with
    | nil => rfl
    | cons v vs ih => exact congr (congrArg List.cons (toValue_ofValue v)) ih

/-- The value that an empty body stands for. -/
def empty : α := ofValue (shape α).default

/-- The value that a document holds. -/
def decode? (bytes : List UInt8) : Option α :=
  (Json.Raw.read? bytes).bind fun r => ((shape α).decode? Json.maxDepth r).map ofValue

/-- The JSON form of a value. -/
def toJson (a : α) : Json := (shape α).encode (toValue a)

end Payload

end DeployService
