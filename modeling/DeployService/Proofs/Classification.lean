import DeployService.Proofs.Reports
import Mathlib.Data.List.Induction

/-!
# Classifying errors

An error is made from a cause by putting contexts around it, one after the other (`Error.built`),
and every error is made so. The cause can be seen through any number of contexts, and it alone
decides how the error is classified (`Error.Classifies`): a status in another form than that of the
clients is brought into this form, at the cost of the contexts around it, and all other errors stay
as they are. In the end there is one form for each status, so that classifying twice is the same as
classifying once, and that a call is worth another attempt can be told from the code
(`errors_classified`).
-/

namespace DeployService

open DeployService.Http

/-- The cause is a status with this code, in one of the three forms. -/
inductive Cause.HasCode : Cause → Nat → Prop where
  | client (code : Nat) (status description : String) :
    HasCode (.client code status description) code
  | bare (operation : String) (code : Nat) (status : String) :
    HasCode (.bare operation code status) code
  | answered (code : Nat) (status payload : String) : HasCode (.answered code status payload) code

theorem Cause.HasCode.unique {cause : Cause} {code code' : Nat} (h : cause.HasCode code)
    (h' : cause.HasCode code') : code = code' := by
  cases h <;> cases h' <;> rfl

namespace Error

/-! ## Contexts -/

/-- The cause in some contexts. The first one is the innermost. -/
def built (cause : Cause) (contexts : List String) : Error :=
  contexts.foldl (fun e context => e.within context) (.of cause)

theorem built_concat (cause : Cause) (contexts : List String) (context : String) :
    built cause (contexts ++ [context]) = (built cause contexts).within context := by
  rw [built, List.foldl_append]
  rfl

/-- Every context is kept, and the cause can be seen through them all. -/
theorem built_eq (cause : Cause) (contexts : List String) :
    built cause contexts = ⟨contexts.reverse, cause⟩ := by
  induction contexts using List.reverseRecOn with
  | nil => rfl
  | append_singleton contexts context ih =>
    rw [built_concat, ih, List.reverse_concat]
    rfl

theorem built_cause (cause : Cause) (contexts : List String) :
    (built cause contexts).cause = cause := by
  rw [built_eq]

theorem built_contexts (cause : Cause) (contexts : List String) :
    (built cause contexts).contexts = contexts.reverse := by
  rw [built_eq]

/-- Every error is a cause in some contexts. -/
theorem eq_built (e : Error) : e = built e.cause e.contexts.reverse := by
  rw [built_eq, List.reverse_reverse]

/-! ## Classes -/

/-- What classifying makes of an error with the given cause. -/
inductive Classifies (e : Error) : Cause → Error → Prop where
  /-- Without a body there is nothing to say but the text of the status. -/
  | bare (operation : String) (code : Nat) (status : String) :
    Classifies e (.bare operation code status) (.of (.client code status status))
  | answered (code : Nat) (status payload : String) :
    Classifies e (.answered code status payload) (.of (.client code status payload))
  | client (code : Nat) (status description : String) :
    Classifies e (.client code status description) e
  | plain (message : String) : Classifies e (.plain message) e
  | external (fault : External) : Classifies e (.external fault) e
  | panic (message : String) : Classifies e (.panic message) e

theorem classifies (e : Error) : Classifies e e.cause e.classify := by
  obtain ⟨contexts, cause⟩ := e
  cases cause with
  | client code status description => exact .client code status description
  | bare operation code status => exact .bare operation code status
  | answered code status payload => exact .answered code status payload
  | plain message => exact .plain message
  | external fault => exact .external fault
  | panic message => exact .panic message

/-- An error without a code stays as it is, and says nothing against another attempt. -/
theorem classify_codeless {e : Error} (h : ¬∃ code, e.cause.HasCode code) :
    e.classify = e ∧ e.isRetryable = true := by
  obtain ⟨contexts, cause⟩ := e
  cases cause with
  | client code status description => exact absurd ⟨code, .client code status description⟩ h
  | bare operation code status => exact absurd ⟨code, .bare operation code status⟩ h
  | answered code status payload => exact absurd ⟨code, .answered code status payload⟩ h
  | plain | external | panic => exact ⟨rfl, rfl⟩

/-- A status is in the form of the clients in the end, with the code that it had. -/
theorem classify_cause {e : Error} {code : Nat} (h : e.cause.HasCode code) :
    ∃ status description, e.classify.cause = .client code status description := by
  obtain ⟨contexts, cause⟩ := e
  cases h with
  | client _ status description => exact ⟨status, description, rfl⟩
  | bare operation _ status => exact ⟨status, status, rfl⟩
  | answered _ status payload => exact ⟨status, payload, rfl⟩

theorem HasStatus.classify_eq {e : Error} (h : e.HasStatus) : e.classify = e := by
  obtain ⟨code, status, description, hcause⟩ := h
  simp [classify, hcause]

theorem classify_classify (e : Error) : e.classify.classify = e.classify := by
  by_cases hcode : ∃ code, e.cause.HasCode code
  · obtain ⟨code, hcode⟩ := hcode
    obtain ⟨status, description, hcause⟩ := classify_cause hcode
    exact HasStatus.classify_eq ⟨code, status, description, hcause⟩
  · rw [(classify_codeless hcode).1, (classify_codeless hcode).1]

/-- A classified error says that the call succeeded exactly if the cause has the code of a success.
-/
theorem classify_isRetryable_iff (e : Error) :
    e.classify.isRetryable = false ↔ ∃ code, e.cause.HasCode code ∧ isSuccess code = true := by
  by_cases hcode : ∃ code, e.cause.HasCode code
  · obtain ⟨code, hcode⟩ := hcode
    obtain ⟨status, description, hcause⟩ := classify_cause hcode
    simp only [isRetryable, hcause, Bool.not_eq_false']
    constructor
    · intro hs
      exact ⟨code, hcode, hs⟩
    · rintro ⟨code', hcode', hs⟩
      rwa [hcode'.unique hcode] at hs
  · obtain ⟨hsame, hretryable⟩ := classify_codeless hcode
    rw [hsame, hretryable]
    constructor
    · intro h
      cases h
    · rintro ⟨code, h, -⟩
      exact absurd ⟨code, h⟩ hcode

/-- **The cause decides how an error is classified.** In however many contexts it stands, the error
keeps them all unless its status is brought into the form of the clients, which loses them;
classifying again changes nothing, and a call that ended with the classified error is worth another
attempt unless the code of the cause says that it succeeded. -/
theorem errors_classified (cause : Cause) (contexts : List String) :
    (built cause contexts).contexts = contexts.reverse ∧
      Classifies (built cause contexts) cause (built cause contexts).classify ∧
      (built cause contexts).classify.classify = (built cause contexts).classify ∧
      (shouldRetry (some (built cause contexts).classify) = false ↔
        ∃ code, cause.HasCode code ∧ 200 ≤ code ∧ code ≤ 299) := by
  have hclass := classifies (built cause contexts)
  have hretry := classify_isRetryable_iff (built cause contexts)
  rw [built_cause] at hclass hretry
  simp only [isSuccess_iff] at hretry
  exact ⟨built_contexts cause contexts, hclass, classify_classify _, hretry⟩

example :
    (built (.answered 409 "Conflict" "busy") ["in a call", "in a command"]).classify =
      .of (.client 409 "Conflict" "busy") := by
  rfl

end Error

end DeployService
