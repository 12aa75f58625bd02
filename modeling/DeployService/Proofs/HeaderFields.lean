import DeployService.Http.Header

/-!
# Setting headers

A header that is set has exactly the value that it was set to, and every other header keeps all of
its values.
-/

namespace DeployService.Http.Headers

variable (name : String) (value : HeaderValue) (headers : Headers)

@[simp] theorem getAll_insert_self : (headers.insert name value).getAll name = [value] := by
  simp [getAll, insert, List.filter_append, List.filter_filter]

theorem getAll_insert_of_ne {name other : String} (h : other ≠ name) :
    (headers.insert name value).getAll other = headers.getAll other := by
  have hfilter : ∀ field : String × HeaderValue,
      (decide (field.1 = other) && decide (field.1 ≠ name)) = decide (field.1 = other) := by
    intro field
    by_cases hf : field.1 = other
    · simp [hf, h]
    · simp [hf]
  simp only [getAll, insert, List.filter_append, List.filter_filter, hfilter]
  simp [Ne.symm h]

theorem getAll_insertSome_self (value : Option HeaderValue) :
    (headers.insertSome name value).getAll name =
      match value with
      | some value => [value]
      | none => headers.getAll name := by
  cases value with
  | some value => exact getAll_insert_self name value headers
  | none => rfl

theorem getAll_insertSome_of_ne {name other : String} (h : other ≠ name)
    (value : Option HeaderValue) :
    (headers.insertSome name value).getAll other = headers.getAll other := by
  cases value with
  | some value => exact getAll_insert_of_ne value headers h
  | none => rfl

@[simp] theorem get?_insert_self : (headers.insert name value).get? name = some value := by
  simp [get?]

end DeployService.Http.Headers
